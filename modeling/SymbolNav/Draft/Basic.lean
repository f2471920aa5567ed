import SymbolNav.Snapshot.Basic
import SymbolNav.Text.Find
import SymbolNav.Text.Quoted

/-!
# Drafts of snapshots

A draft grows a snapshot from source texts: it is told which occurrences of which words mean what
and finds their places itself. A step fails when the words it asks for are not there, or when it
names something that the draft does not have.
-/

namespace SymbolNav

/-- Why a step of a draft fails. -/
inductive DraftError where
  | occurrenceNotFound (nth : Nat) (needle : String)
  | classNotFound (name : String)
  | baseNotFound (name : String)
  | functionNotFound (name : String)
  | variableNotFound (name : String)
  | idNotFound (name : String)
  | tagNotFound (name : String) (nth : Nat)
  | docCommentNotFound (nth : Nat)
  | noSyntaxTree (unit : UnitId)
  | noMembers (owner : DefId)
  /-- A handle or span that the draft does not have. -/
  | outOfRange
deriving DecidableEq, Repr

namespace DraftError

def message? : DraftError → Option String
  | .occurrenceNotFound nth needle =>
    some ("occurrence " ++ toString nth ++ " of " ++ Text.quoted needle ++ " not found")
  | .classNotFound name => some ("class " ++ name ++ " not found")
  | .baseNotFound name => some ("extends " ++ name ++ " not found")
  | .functionNotFound name => some ("function " ++ name ++ " not found")
  | .variableNotFound name => some ("var " ++ name ++ " not found")
  | .idNotFound name => some ("id=" ++ Text.quoted name ++ " not found")
  | .tagNotFound name nth => some ("tag " ++ name ++ " #" ++ toString nth ++ " not found")
  | .docCommentNotFound nth => some ("doc comment #" ++ toString nth ++ " not found")
  | .noSyntaxTree unit => some ("unit UnitId(" ++ toString unit.index ++ ") has no syntax tree")
  | .noMembers owner => some ("DefId(" ++ toString owner.index ++ ") cannot have members")
  | .outOfRange => none

end DraftError

/-- A snapshot under construction. -/
structure Draft where
  units : List UnitSnapshot := []
  /-- The nodes, each with the unit it belongs to. -/
  nodes : List (UnitId × SyntaxNode) := []
  definitions : List Definition := []
  bindings : List (NodeId × DefId) := []
  tagBindings : List TagBinding := []
  overrides : List OverrideLink := []
  includes : List IncludeSnapshot := []
  /-- The declaration of a definition, within which its members are searched for. -/
  declarations : List (DefId × NodeId) := []

/-- A step that grows a draft or fails. -/
abbrev Draft.Build := StateT Draft (Except DraftError)

namespace Draft

/-- The finished snapshot, with its bindings in the order of their nodes. -/
def snapshot (d : Draft) : Snapshot where
  units := d.units
  nodes := d.nodes.map (·.2)
  definitions := d.definitions
  bindings :=
    (d.bindings.mergeSort fun a b => a.1.index ≤ b.1.index).map fun b => ⟨b.1, b.2⟩
  tagBindings := d.tagBindings
  overrides := d.overrides
  includes := d.includes

/-- A value that has to be there. -/
def demand (error : DraftError) : Option α → Build α
  | some a => pure a
  | none => throw error

def unitAt (u : UnitId) : Build UnitSnapshot := do
  demand .outOfRange (← get).units[u.index]?

def definitionAt (id : DefId) : Build Definition := do
  demand .outOfRange (← get).definitions[id.index]?

def nodeAt (id : NodeId) : Build SyntaxNode := do
  demand .outOfRange ((← get).nodes[id.index]?.map (·.2))

/-- The text of a unit; a library has none. -/
def textOf (u : UnitId) : Build (List Char) := do
  return ((← unitAt u).text.getD "").toList

def modifyUnit (u : UnitId) (f : UnitSnapshot → UnitSnapshot) : Build Unit := do
  let _ ← unitAt u
  modify fun d => { d with units := d.units.modify u.index f }

def modifyDefinition (id : DefId) (f : Definition → Definition) : Build Unit := do
  let _ ← definitionAt id
  modify fun d => { d with definitions := d.definitions.modify id.index f }

/-- Change the kind of a node. -/
def setKind (id : NodeId) (kind : NodeKind) : Build Unit :=
  modify fun d => { d with nodes := d.nodes.modify id.index fun n => (n.1, { n.2 with kind }) }

/-- All of a text. -/
def whole (text : List Char) : Span := ⟨0, Text.byteLength text⟩

end Draft

end SymbolNav
