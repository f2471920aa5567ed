import SymbolNav.Draft.Units

/-!
# Growing definitions

A declaration is found by its keyword and name: `class Shape`, `function draw`, `var area`. It
becomes a node that spans its block or statement, with the identifier of its name below it. Members
are searched for within the declaration of their owner, or in all of the unit if the owner has none
there.
-/

namespace SymbolNav.Draft

def addDefinition (definition : Definition) : Build DefId := do
  let d ← get
  set { d with definitions := d.definitions ++ [definition] }
  return ⟨d.definitions.length⟩

/-- The kind with one more member, if it can have members. -/
def withMember (member : DefId) : DefinitionKind → Option DefinitionKind
  | .package members => some (.package (members ++ [member]))
  | .classType constructor members => some (.classType constructor (members ++ [member]))
  | .interfaceType members => some (.interfaceType (members ++ [member]))
  | _ => none

def pushMember (owner member : DefId) : Build Unit := do
  let definition ← definitionAt owner
  let kind ← demand (.noMembers owner) (withMember member definition.kind)
  modifyDefinition owner fun d => { d with kind }

/-- A name behind the qualified name of its owner. -/
def qualify (owner : Option DefId) (name : String) : Build String := do
  match owner with
  | none => return name
  | some owner =>
    let qualifier := (← definitionAt owner).qualifiedName
    return if qualifier = "" then name else qualifier ++ "." ++ name

/-- Where the members of an owner are searched for. -/
def body (u : UnitId) (owner : DefId) : Build Span := do
  match (← get).declarations.lookup owner with
  | some node => return (← nodeAt node).span
  | none => return whole (← textOf u)

/-- The last `name` bytes of a span. -/
def nameWithin (span : Span) (name : String) : Span :=
  ⟨span.stop - Text.byteLength name.toList, span.stop⟩

/-- A private definition is marked so on its line, in front of its keyword. -/
def visibilityAt (text : List Char) (keyword : Span) : Visibility :=
  let front : Span := ⟨Text.lineStart text keyword.start, keyword.start⟩
  if Text.hasWord text "private".toList front then .priv else .pub

/-- Stands for the name of a declaration as long as its identifier is not there: the last of the
handles, which are words of 32 bits. -/
def placeholder : NodeId := ⟨0xFFFFFFFF⟩

/-- Add the node of a declaration, with the identifier of its name. -/
def declare (u : UnitId) (definition : DefId) (span nameSpan : Span) (kind : NodeId → NodeKind) :
    Build Unit := do
  let declaration ← addNode u (kind placeholder) span
  let name ← identifier u nameSpan (some definition)
  setKind declaration (kind name)
  modify fun d => { d with
    declarations := d.declarations.filter (·.1 ≠ definition) ++ [(definition, declaration)] }

def setVisibility (id : DefId) (visibility : Visibility) : Build Unit :=
  modifyDefinition id fun d => { d with visibility }

/-- A package of a unit. The unnamed package and those of markup are not declared in the text. -/
def package (u : UnitId) (name : String) : Build DefId := do
  let text ← textOf u
  let found := (Text.wordOccurrences text ("package " ++ name).toList (whole text)).head?
  let nameSpan := (found.filter fun _ => name ≠ "").map (nameWithin · name)
  let id ← addDefinition
    { name, qualifiedName := name, kind := .package [], visibility := .pub
      containingFile := (← unitAt u).path, parent := none, nameSpan }
  addToScope u id
  return id

/-- Put a class into its package, or into the file scope if it has none. -/
def place (u : UnitId) (owner : Option DefId) (id : DefId) : Build Unit :=
  match owner with
  | some owner => pushMember owner id
  | none => addToScope u id

/-- A class with its declaration. -/
def declareClass (u : UnitId) (owner : Option DefId) (name : String) : Build DefId := do
  let text ← textOf u
  let keyword ← demand (.classNotFound name)
    (Text.wordOccurrences text ("class " ++ name).toList (whole text)).head?
  let nameSpan := nameWithin keyword name
  let id ← addDefinition
    { name, qualifiedName := ← qualify owner name, kind := .classType none [], visibility := .pub
      containingFile := (← unitAt u).path, parent := owner, nameSpan := some nameSpan }
  place u owner id
  declare u id ⟨keyword.start, Text.blockEnd text nameSpan.stop⟩ nameSpan (.classDecl · none)
  return id

/-- The class that the root tag of a markup unit declares. -/
def markupClass (u : UnitId) (owner : Option DefId) (name : String) : Build DefId := do
  let id ← addDefinition
    { name, qualifiedName := ← qualify owner name, kind := .classType none [], visibility := .pub
      containingFile := (← unitAt u).path, parent := owner, nameSpan := none }
  place u owner id
  modifyUnit u fun unit => { unit with rootDefinition := some id }
  return id

/-- A class declaration with what it extends. -/
def withBase (base : NodeId) : NodeKind → NodeKind
  | .classDecl name _ => .classDecl name (some base)
  | kind => kind

/-- Bind what a class extends. -/
def extend (u : UnitId) (id base : DefId) : Build Unit := do
  let declaration ← demand .outOfRange ((← get).declarations.lookup id)
  let name := (← definitionAt base).name
  let text ← textOf u
  let clause ← demand (.baseNotFound name) (Text.wordOccurrences text ("extends " ++ name).toList
    (← nodeAt declaration).span).head?
  let node ← identifier u (nameWithin clause name) (some base)
  setKind declaration (withBase node (← nodeAt declaration).kind)

/-- What is declared within its owner by a word in front of its name, with its declaration. The kind
depends on where the word is found, and `stop` leads from the name to the end of the declaration. -/
def declareWithin (missing : DraftError) (word : String) (kind : List Char → Span → DefinitionKind)
    (stop : List Char → Nat → Nat) (u : UnitId) (owner : DefId) (name : String) : Build DefId := do
  let text ← textOf u
  let keyword ← demand missing
    (Text.wordOccurrences text (word ++ name).toList (← body u owner)).head?
  let nameSpan := nameWithin keyword name
  let id ← addDefinition
    { name, qualifiedName := ← qualify (some owner) name, kind := kind text keyword
      visibility := visibilityAt text keyword
      containingFile := (← unitAt u).path, parent := some owner, nameSpan := some nameSpan }
  declare u id ⟨keyword.start, stop text nameSpan.stop⟩ nameSpan .declaration
  return id

/-- A function with its declaration. It overrides another one if its line says so. -/
def declareFunction (u : UnitId) (owner : DefId) (name : String) (classification : FunctionClass) :
    Build DefId :=
  let kind (text : List Char) (keyword : Span) : DefinitionKind :=
    let line : Span := ⟨Text.lineStart text keyword.start, keyword.start⟩
    .function classification (Text.hasWord text "override".toList line)
  declareWithin (.functionNotFound name) "function " kind Text.blockEnd u owner name

def method (u : UnitId) (owner : DefId) (name : String) : Build DefId := do
  let id ← declareFunction u owner name .classMember
  pushMember owner id
  return id

def localFunction (u : UnitId) (owner : DefId) (name : String) : Build DefId :=
  declareFunction u owner name .localScope

/-- A class with its constructor; other definitions have none. -/
def withConstructor (constructor : DefId) : DefinitionKind → DefinitionKind
  | .classType _ members => .classType (some constructor) members
  | kind => kind

/-- The function of a class that has the same name. -/
def constructor (u : UnitId) (owner : DefId) : Build DefId := do
  let name := (← definitionAt owner).name
  let id ← declareFunction u owner name .classMember
  modifyDefinition owner fun d => { d with kind := withConstructor id d.kind }
  return id

/-- End of the statement that goes on at the offset: behind its semicolon or line feed. -/
def statementEnd (text : List Char) (offset : Nat) : Nat :=
  match (Text.dropBytes? text offset).bind (Text.findChar? fun c => c = ';' || c = '\n') with
  | some length => offset + length + 1
  | none => Text.byteLength text

/-- A variable with its declaration. -/
def declareVariable (u : UnitId) (owner : DefId) (name : String) (classification : VariableClass) :
    Build DefId :=
  declareWithin (.variableNotFound name) "var " (fun _ _ => .var classification) statementEnd u
    owner name

def field (u : UnitId) (owner : DefId) (name : String) : Build DefId := do
  let id ← declareVariable u owner name .classMember
  pushMember owner id
  return id

def localVariable (u : UnitId) (owner : DefId) (name : String) : Build DefId :=
  declareVariable u owner name .localScope

/-- The value of the first `id` attribute that names the field. -/
def idValue? (m : MarkupDocument) (name : String) : Option Span :=
  ((m.tags.flatMap (·.attributes)).find? fun a => a.name = idAttribute && a.rawValue = name).bind
    (·.valueSpan)

/-- A field of a markup class that an `id` attribute declares. -/
def idField (u : UnitId) (owner : DefId) (name : String) : Build DefId := do
  let valueSpan ← demand (.idNotFound name) ((← unitAt u).markup.bind (idValue? · name))
  let id ← addDefinition
    { name, qualifiedName := ← qualify (some owner) name, kind := .var .classMember
      visibility := .pub, containingFile := (← unitAt u).path, parent := some owner
      nameSpan := some valueSpan }
  pushMember owner id
  return id

/-- The package of a name in a file scope. -/
def packageIn? (d : Draft) (scope : FileScope) (name : String) : Option DefId :=
  match scope with
  | .ready definitions =>
    definitions.find? fun id => d.definitions[id.index]?.any fun p =>
      p.isPackage && p.qualifiedName = name
  | .failed _ => none

/-- A class of a precompiled library. The library and the package are added unless they are there.
-/
def libraryClass (library : Path) (packageName name : String) : Build DefId := do
  let u ← match (← get).units.findIdx? (·.path.same library) with
    | some index => pure ⟨index⟩
    | none => addUnit library .compiled none
  let owner ← match (← get).packageIn? (← unitAt u).scope packageName with
    | some id => pure id
    | none => do
      let id ← addDefinition
        { name := packageName, qualifiedName := packageName, kind := .package [], visibility := .pub
          containingFile := library, parent := none, nameSpan := none }
      addToScope u id
      pure id
  let id ← addDefinition
    { name, qualifiedName := ← qualify (some owner) name, kind := .classType none []
      visibility := .pub, containingFile := library, parent := some owner, nameSpan := none }
  pushMember owner id
  return id

/-- A variable of a library class. -/
def libraryMember (owner : DefId) (name : String) : Build DefId := do
  let definition ← definitionAt owner
  let id ← addDefinition
    { name, qualifiedName := definition.qualifiedName ++ "." ++ name, kind := .var .classMember
      visibility := .pub, containingFile := definition.containingFile, parent := some owner
      nameSpan := none }
  pushMember owner id
  return id

/-- A function that is marked as an override; other definitions stay as they are. -/
def markedOverride : DefinitionKind → DefinitionKind
  | .function classification _ => .function classification true
  | kind => kind

/-- Let a function override another one. -/
def override (function overridden : DefId) : Build Unit := do
  modifyDefinition function fun d => { d with kind := markedOverride d.kind }
  modify fun d => { d with overrides := d.overrides ++ [⟨function, overridden⟩] }

end SymbolNav.Draft
