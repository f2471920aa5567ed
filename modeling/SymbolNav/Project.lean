import SymbolNav.FileTree
import SymbolNav.Snapshot.Basic
import SymbolNav.Url.File

/-!
# Projects

A project is a snapshot together with the texts of its units, and the questions that navigation asks
of it. Handles that dangle are answered with nothing. Where a list of a snapshot says something
about the same thing more than once, the last word counts.
-/

namespace SymbolNav

/-- The last element with the given property. -/
def lastWith? (p : α → Bool) (items : List α) : Option α :=
  items.reverse.find? p

structure Project where
  snapshot : Snapshot
  /-- The texts of the units, where they are known. -/
  texts : List (Option String)

/-- A file scope that could not be computed. -/
structure ScopeError where
  path : Path
  reason : String
deriving DecidableEq, Repr

/-- A place in a file. -/
structure Location where
  uri : String
  range : PositionRange
deriving DecidableEq, Repr

/-- The start of a text. -/
def PositionRange.origin : PositionRange := ⟨⟨0, 0⟩, ⟨0, 0⟩⟩

def ScopeError.message (e : ScopeError) : String :=
  "scope of " ++ e.path.text ++ " is unavailable: " ++ e.reason

namespace Project

/-- The text of a unit: its own, or that of its file for units that have a source. -/
def unitText? (disk : FileTree) (u : UnitSnapshot) : Option String :=
  match u.text with
  | some text => some text
  | none => if u.kind.isSource then (disk.read u.path).toOption else none

def ofSnapshot (disk : FileTree) (s : Snapshot) : Project :=
  ⟨s, s.units.map (unitText? disk)⟩

/-- The empty project that stands in for files outside every project. -/
def fallback : Project :=
  ofSnapshot {} { fallback := true }

def isFallback (p : Project) : Bool := p.snapshot.fallback

/-- All units in order. -/
def units (p : Project) : List UnitId :=
  (List.range p.snapshot.units.length).map UnitId.mk

def unit? (p : Project) (u : UnitId) : Option UnitSnapshot :=
  p.snapshot.units[u.index]?

/-- The unit of a file. -/
def unitForPath? (p : Project) (path : Path) : Option UnitId :=
  (lastWith? (fun u => u.1.path.same path) p.snapshot.units.zipIdx).map fun u => ⟨u.2⟩

def unitPath? (p : Project) (u : UnitId) : Option Path :=
  (p.unit? u).map (·.path)

def unitKind? (p : Project) (u : UnitId) : Option UnitKind :=
  (p.unit? u).map (·.kind)

def isSource (p : Project) (u : UnitId) : Bool :=
  (p.unitKind? u).any (·.isSource)

/-- The definitions at the top of a unit. -/
def fileScope (p : Project) (u : UnitId) : Except ScopeError (List DefId) :=
  match p.unit? u with
  | none => .ok []
  | some unit =>
    match unit.scope with
    | .ready definitions => .ok definitions
    | .failed reason => .error ⟨unit.path, reason⟩

/-- The class of a markup unit, which is known only when its file scope is. -/
def rootDefinition (p : Project) (u : UnitId) : Except ScopeError (Option DefId) := do
  let _ ← p.fileScope u
  .ok ((p.unit? u).bind (·.rootDefinition))

def ast? (p : Project) (u : UnitId) : Option NodeId :=
  (p.unit? u).bind (·.ast)

def node? (p : Project) (n : NodeId) : Option SyntaxNode :=
  p.snapshot.nodes[n.index]?

def definition? (p : Project) (d : DefId) : Option Definition :=
  p.snapshot.definitions[d.index]?

def docComments (p : Project) (u : UnitId) : List DocComment :=
  ((p.unit? u).map (·.docComments)).getD []

def markup? (p : Project) (u : UnitId) : Option MarkupDocument :=
  (p.unit? u).bind (·.markup)

/-- What a node stands for. -/
def binding? (p : Project) (n : NodeId) : Option DefId :=
  (lastWith? (·.node = n) p.snapshot.bindings).map (·.definition)

/-- What the name of a tag stands for. -/
def tagBinding? (p : Project) (u : UnitId) (t : TagId) : Option DefId :=
  (lastWith? (fun b => b.unit = u ∧ b.tag = t ∧ b.attr = none) p.snapshot.tagBindings).map
    (·.definition)

/-- What the name of an attribute stands for. -/
def attributeBinding? (p : Project) (u : UnitId) (t : TagId) (attr : Nat) : Option DefId :=
  (lastWith? (fun b => b.unit = u ∧ b.tag = t ∧ b.attr = some attr) p.snapshot.tagBindings).map
    (·.definition)

/-- The function that a function overrides, one class up. -/
def overridden? (p : Project) (d : DefId) : Option DefId :=
  (lastWith? (·.function = d) p.snapshot.overrides).map (·.overrides)

/-- How a file is spliced into another one. -/
def includeSplice? (p : Project) (path : Path) : Option IncludeSplice :=
  (lastWith? (·.path.same path) p.snapshot.includes).map (·.splice)

/-- The text that the spans of a unit refer to. -/
def text? (p : Project) (u : UnitId) : Option String :=
  (p.texts[u.index]?).join

/-- A span of a unit as an editor addresses it. -/
def editorRange? (p : Project) (u : UnitId) (s : Span) : Option PositionRange :=
  (p.text? u).bind fun text => Text.range? text.toList s

/-- Where a definition is declared. One without a known place is at the start of its file. -/
def locations (p : Project) (d : DefId) : List Location :=
  match p.definition? d with
  | none => []
  | some definition =>
    match definition.containingFile.toUrl? with
    | none => []
    | some uri =>
      let range := do
        let span ← definition.nameSpan
        let unit ← p.unitForPath? definition.containingFile
        p.editorRange? unit span
      [⟨uri, range.getD .origin⟩]

/-- The start of a file. -/
def sourceLocation? (path : Path) : Option Location :=
  path.toUrl?.map (⟨·, .origin⟩)

/-- The project knows the file as a unit or as an included file. -/
def owns (p : Project) (path : Path) : Bool :=
  (p.unitForPath? path).isSome || (p.includeSplice? path).isSome

/-- The project that answers for a file. -/
def forSource (p : Project) (path : Path) : Project :=
  if p.owns path then p else fallback

end Project

end SymbolNav
