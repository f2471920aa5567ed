import SymbolNav.Navigation.Context

/-!
# What lies at a position

A position in a document becomes an offset in a unit, through the splice if another file includes
the document. At the offset of a unit there may be a documentation comment, a syntax node or a tag.
Nodes and tags are searched from the root down: `innermostNode` prefers a child that goes on behind
the offset to one that ends there, so that a cursor right behind a name still finds it.
-/

namespace SymbolNav

/-- An offset in the text of a unit. -/
structure Located where
  unit : UnitId
  offset : Nat
deriving DecidableEq, Repr

/-- What occupies an offset of a unit. -/
inductive OffsetTarget where
  | node (id : NodeId)
  /-- The comment and its place among those of the unit. -/
  | docComment (index : Nat) (comment : DocComment)
  | nothing
deriving DecidableEq, Repr

namespace Project

/-- The unit and offset of a position in a document. -/
def locate? (p : Project) (document : SourceDocument) (position : Position) : Option Located := do
  let offset ← Text.offset? document.text.toList position
  match p.includeSplice? document.path with
  | some splice =>
    let effective ← splice.toEffective? offset
    let unit ← p.unitForPath? splice.parent
    some ⟨unit, effective⟩
  | none =>
    let unit ← p.unitForPath? document.path
    some ⟨unit, offset⟩

/-- The child of a node to go on with: the first one that contains the offset, else the first one
that ends at it. -/
def childAt? (p : Project) (offset : Nat) (id : NodeId) : Option NodeId :=
  (p.node? id).bind fun node =>
    (node.children.find? fun child => (p.node? child).any (·.span.contains offset)).or
      (node.children.find? fun child => (p.node? child).any (·.span.covers offset))

/-- The innermost node at the offset in the tree below `root`. -/
def innermostNode (p : Project) (root : NodeId) (offset : Nat) : Answer (Option NodeId) :=
  if (p.node? root).any (·.span.covers offset) then
    (walk (p.childAt? offset) p.snapshot.nodes.length root).map some
  else
    .ok none

/-- The first documentation comment that contains the offset, else the innermost node. -/
def offsetTarget (p : Project) (u : UnitId) (offset : Nat) : Answer OffsetTarget :=
  match (p.docComments u).zipIdx.find? fun c => c.1.span.contains offset with
  | some (comment, index) => .ok (.docComment index comment)
  | none =>
    match p.ast? u with
    | none => .ok .nothing
    | some root => do
      match ← p.innermostNode root offset with
      | some node => .ok (.node node)
      | none => .ok .nothing

/-- The innermost node, if the offset lies in a script region of the tag that holds all of the node.
-/
def embeddedNode (p : Project) (u : UnitId) (tag : MarkupTag) (offset : Nat) :
    Answer (Option NodeId) :=
  match tag.scriptRegionAt? offset, p.ast? u with
  | some region, some root => do
    let found ← p.innermostNode root offset
    .ok (found.filter fun id => (p.node? id).any (region.encloses ·.span))
  | _, _ => .ok none

end Project

namespace MarkupDocument

/-- The first child of a tag that contains the offset. -/
def childAt? (m : MarkupDocument) (offset : Nat) (id : TagId) : Option TagId :=
  (m.tag? id).bind fun tag =>
    tag.children.find? fun child => (m.tag? child).any (·.span.contains offset)

/-- The innermost tag that contains the offset. -/
def tagAt (m : MarkupDocument) (offset : Nat) : Answer (Option TagId) :=
  match m.rootTag? with
  | none => .ok none
  | some (root, tag) =>
    if tag.span.contains offset then (walk (m.childAt? offset) m.tags.length root).map some
    else .ok none

end MarkupDocument

end SymbolNav
