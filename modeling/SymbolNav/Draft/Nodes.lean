import SymbolNav.Draft.Basic

/-!
# Growing syntax trees

A new node goes below the innermost node that encloses it, and takes over the children of that node
which it encloses itself. Children stand in the order of their starts.
-/

namespace SymbolNav.Draft

/-- The span of a node satisfies a property. -/
def spanIs (d : Draft) (p : Span → Bool) (id : NodeId) : Bool :=
  d.nodes[id.index]?.any fun n => p n.2.span

/-- The first child of a node that encloses the span. -/
def enclosingChild? (d : Draft) (span : Span) (id : NodeId) : Option NodeId :=
  d.nodes[id.index]?.bind fun n => n.2.children.find? (d.spanIs (·.encloses span))

/-- Go down from a node for at most `moves` moves as long as a child encloses the span. -/
def enclosingNode (d : Draft) (span : Span) : (moves : Nat) → NodeId → NodeId
  | 0, id => id
  | moves + 1, id =>
    match d.enclosingChild? span id with
    | none => id
    | some child => d.enclosingNode span moves child

/-- Start of a node. -/
def startOf (d : Draft) (id : NodeId) : Nat :=
  (d.nodes[id.index]?.map (·.2.span.start)).getD 0

/-- The draft with a new node below `parent`. -/
def insertBelow (d : Draft) (u : UnitId) (parent : NodeId) (kind : NodeKind) (span : Span) :
    Draft :=
  let id : NodeId := ⟨d.nodes.length⟩
  let siblings := (d.nodes[parent.index]?.map (·.2.children)).getD []
  let (adopted, kept) := siblings.partition (d.spanIs span.encloses)
  let adopt (nodes : List (UnitId × SyntaxNode)) (child : NodeId) :=
    nodes.modify child.index fun n => (n.1, { n.2 with parent := some id })
  let nodes := adopted.foldl adopt d.nodes
  let node : SyntaxNode := { kind, span, parent := some parent, children := adopted }
  let grown : Draft := { d with nodes := nodes ++ [(u, node)] }
  let children := (kept ++ [id]).mergeSort fun a b => grown.startOf a ≤ grown.startOf b
  { grown with nodes := grown.nodes.modify parent.index fun n => (n.1, { n.2 with children }) }

/-- Add a node to the tree of a unit. -/
def addNode (u : UnitId) (kind : NodeKind) (span : Span) : Build NodeId := do
  let root ← demand (.noSyntaxTree u) (← unitAt u).ast
  let d ← get
  let parent := d.enclosingNode span d.nodes.length root
  set (d.insertBelow u parent kind span)
  return ⟨d.nodes.length⟩

/-- The identifier of a unit that stands exactly at the span. -/
def identifierAt? (d : Draft) (u : UnitId) (span : Span) : Option NodeId :=
  (d.nodes.findIdx? fun n => n.1 = u && n.2.span = span && n.2.isIdentifier).map NodeId.mk

/-- The identifier at a span, which is added unless it is there. -/
def identifier (u : UnitId) (span : Span) (definition : Option DefId) : Build NodeId := do
  let id ← match (← get).identifierAt? u span with
    | some id => pure id
    | none => do
      let name ← demand .outOfRange (Text.slice? (← textOf u) span)
      addNode u (.identifier (String.ofList name)) span
  if let some definition := definition then
    modify fun d => { d with bindings := d.bindings.filter (·.1 ≠ id) ++ [(id, definition)] }
  return id

/-- The `nth` whole-word occurrence of a needle in the text of a unit. -/
def spanOf (u : UnitId) (needle : String) (nth : Nat) : Build Span := do
  let text ← textOf u
  let found := Text.wordOccurrences text needle.toList (whole text)
  demand (.occurrenceNotFound nth needle) found[nth]?

/-- An identifier at the `nth` whole-word occurrence of a name. -/
def reference (u : UnitId) (name : String) (nth : Nat) (definition : Option DefId) :
    Build NodeId := do
  let span ← spanOf u name nth
  identifier u span definition

end SymbolNav.Draft
