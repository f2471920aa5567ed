import SymbolNav.Navigation.Answer
import SymbolNav.Navigation.Scope

/-!
# What a node refers to

Bindings come first, then the fallbacks of the resolver in their order. An identifier without a
binding may qualify a member access, such as `events` in `flash.events.Event`; the fallback of the
standard resolver looks up the dotted name that ends with it. For navigation `this` and `super`
stand for the enclosing class and what it extends, and a class named in a `new` expression stands
for its constructor.
-/

namespace SymbolNav

namespace Project

/-- The name `a.b.c` of identifiers joined by member access, at most `depth` accesses deep. -/
def dottedName (p : Project) : (depth : Nat) → NodeId → Answer (Option String)
  | depth, id =>
    match p.node? id with
    | none => .ok none
    | some node =>
      match node.kind with
      | .identifier name => .ok (some name)
      | .memberAccess left right =>
        match depth with
        | 0 => .error .endless
        | depth + 1 => do
          match ← p.dottedName depth left with
          | none => .ok none
          | some front =>
            let back ← p.dottedName depth right
            .ok (back.map fun back => front ++ "." ++ back)
      | _ => .ok none

/-- The dotted name that ends with an operand of a member access. -/
def qualifier (p : Project) (id : NodeId) : Answer (Option String) :=
  let access := do
    let node ← p.node? id
    let _ ← node.identifier?
    let parent ← node.parent
    let (left, right) ← (← p.node? parent).memberAccess?
    some (parent, left, right)
  match access with
  | none => .ok none
  | some (parent, left, right) =>
    if right = id then p.dottedName p.snapshot.nodes.length parent
    else if left = id then p.dottedName p.snapshot.nodes.length id
    else .ok none

/-- What an operand of a member access stands for as the end of a dotted name. -/
def qualified (p : Project) (id : NodeId) : Answer (Option DefId) := do
  let name ← p.qualifier id
  .ok (name.bind p.packageOrDefinition?)

/-- The next node on the way up to a class declaration. -/
def parentUnlessClass? (p : Project) (id : NodeId) : Option NodeId :=
  (p.node? id).bind fun node => if node.isClassDecl then none else node.parent

/-- The class declaration around a node. -/
def enclosingClass (p : Project) (id : NodeId) : Answer (Option NodeId) :=
  match (p.node? id).bind (·.parent) with
  | none => .ok none
  | some parent => do
    let top ← walk p.parentUnlessClass? p.snapshot.nodes.length parent
    .ok (if (p.node? top).any (·.isClassDecl) then some top else none)

/-- The next node on the way up to a style block. -/
def parentUnlessStyle? (p : Project) (id : NodeId) : Option NodeId :=
  (p.node? id).bind fun node => if node.isStyleBlock then none else node.parent

/-- The node is, or lies in, a style block. -/
def isInStyleBlock (p : Project) (id : NodeId) : Answer Bool := do
  let top ← walk p.parentUnlessStyle? p.snapshot.nodes.length id
  .ok ((p.node? top).any (·.isStyleBlock))

/-- What a keyword stands for: the enclosing class or what it extends. -/
def keywordTarget (p : Project) (id : NodeId) (word : Keyword) : Answer (Option DefId) := do
  let enclosing ← p.enclosingClass id
  let parts := (enclosing.bind p.node?).bind (·.classParts?)
  .ok (parts.bind fun (name, base) =>
    match word with
    | .this => p.binding? name
    | .super => base.bind p.binding?
    | .other => none)

/-- In a `new` expression, the constructor in place of its class. -/
def preferConstructor (p : Project) (id : NodeId) (d : DefId) : DefId :=
  if (((p.node? id).bind (·.parent)).bind p.node?).any (·.isNewCall) then
    ((p.definition? d).bind (·.constructor?)).getD d
  else d

/-- The function that a definition overrides, if it is marked as an override. -/
def nextBase? (p : Project) (d : DefId) : Option DefId :=
  if p.defines d (·.isOverride) then (p.overridden? d).filter (· ≠ d) else none

/-- Follow overrides for at most `steps` steps. -/
def baseWithin (p : Project) : (steps : Nat) → DefId → DefId
  | 0, d => d
  | steps + 1, d =>
    match p.nextBase? d with
    | none => d
    | some base => p.baseWithin steps base

/-- How many overrides are followed. -/
def overrideLimit : Nat := 64

/-- The declaration that introduced a function. -/
def baseDeclaration (p : Project) (d : DefId) : DefId :=
  p.baseWithin overrideLimit d

end Project

/-- How identifiers are resolved: by their bindings, and where they have none by the first fallback
that knows them. -/
structure Resolver where
  fallbacks : List (Project → NodeId → Answer (Option DefId))

namespace Resolver

/-- By bindings, and where there is none as part of a qualified name. -/
def standard : Resolver := ⟨[Project.qualified]⟩

/-- By bindings only. -/
def bindingsOnly : Resolver := ⟨[]⟩

/-- What an identifier refers to. -/
def identifier (r : Resolver) (p : Project) (id : NodeId) : Answer (Option DefId) :=
  match p.binding? id with
  | some d => .ok (some d)
  | none => r.fallbacks.findSomeM? fun fallback => fallback p id

/-- What a node refers to, for navigation. -/
def forNavigation (r : Resolver) (p : Project) (id : NodeId) : Answer (Option DefId) :=
  match p.node? id with
  | none => .ok none
  | some node => do
    let found ← match node.kind with
      | .identifier _ => r.identifier p id
      | .keyword word => p.keywordTarget id word
      | _ => .ok none
    .ok (found.map (p.preferConstructor id))

/-- What a node declares or refers to, for renaming. -/
def forRename (r : Resolver) (p : Project) (id : NodeId) : Answer (Option DefId) :=
  match p.node? id with
  | none => .ok none
  | some node =>
    match node.declaredName? with
    | some name => .ok (p.binding? name)
    | none => if node.isIdentifier then r.identifier p id else .ok none

end Resolver

end SymbolNav
