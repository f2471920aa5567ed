import SymbolNav.Project

/-!
# Looking up definitions by name

The definitions at package level of a unit are the members of the packages in its file scope. A file
scope that could not be computed counts as empty.
-/

namespace SymbolNav.Project

/-- The definitions at the top of a unit, none if they are not known. -/
def scopeOrEmpty (p : Project) (u : UnitId) : List DefId :=
  match p.fileScope u with
  | .ok definitions => definitions
  | .error _ => []

/-- The definitions at package level of a unit, in order. -/
def topLevel (p : Project) (u : UnitId) : List DefId :=
  ((p.scopeOrEmpty u).filterMap p.definition?).filter (·.isPackage) |>.flatMap (·.members)

/-- The definition has the given property. -/
def defines (p : Project) (d : DefId) (property : Definition → Bool) : Bool :=
  (p.definition? d).any property

/-- The first definition at package level that other units see. -/
def primary? (p : Project) (u : UnitId) : Option DefId :=
  (p.topLevel u).find? fun d => p.defines d (!·.isPrivate)

/-- The first definition at package level with the qualified name. -/
def byQualifiedName? (p : Project) (name : String) : Option DefId :=
  (p.units.flatMap p.topLevel).find? fun d => p.defines d (·.qualifiedName = name)

/-- The first package with the qualified name. -/
def packageByName? (p : Project) (name : String) : Option DefId :=
  (p.units.flatMap p.scopeOrEmpty).find? fun d =>
    p.defines d fun definition => definition.isPackage && definition.qualifiedName = name

/-- A definition at package level with the qualified name, else a package. -/
def packageOrDefinition? (p : Project) (name : String) : Option DefId :=
  (p.byQualifiedName? name).or (p.packageByName? name)

/-- The name of the first package of a unit, unless it is the unnamed one. -/
def packageName? (p : Project) (u : UnitId) : Option String :=
  (((p.scopeOrEmpty u).filterMap p.definition?).find? (·.isPackage)).map (·.qualifiedName)
    |>.filter (· ≠ "")

/-- The file of the unit is named after the definition, or after the class it constructs. -/
def isPrincipal (p : Project) (u : UnitId) (target : DefId) : Bool :=
  let isFunction := p.defines target (·.isFunction)
  (p.topLevel u).any fun d =>
    d = target || (isFunction && p.defines d (·.constructor? = some target))

end SymbolNav.Project
