import SymbolNav.Path
import SymbolNav.Snapshot.Id
import SymbolNav.Text.Span

/-!
# Markup documents

A markup document is a tree of tags. A tag records where its parts stand, and the predicates here
say in which of them an offset lies: the namespace in front of the name, the name, the attributes,
the content, or a region that holds script.
-/

namespace SymbolNav

/-- A name with the namespace written in front of it. -/
structure XmlName where
  space : Option String
  localPart : String
deriving DecidableEq, Repr

/-- What a tag means to the language. -/
inductive TagRole where
  | script
  | style
  | component
deriving DecidableEq, Repr

structure MarkupAttribute where
  name : String
  nameSpan : Span
  /-- Where the value stands between its quotes. -/
  valueSpan : Option Span
  rawValue : String
deriving DecidableEq, Repr

structure MarkupTag where
  name : XmlName
  role : TagRole
  /-- From the start tag to the end of the end tag. -/
  span : Span
  /-- The start tag. -/
  openSpan : Span
  /-- The name in the start tag, namespace included. -/
  nameSpan : Span
  /-- The name in the end tag, namespace included. -/
  closeNameSpan : Option Span
  attributes : List MarkupAttribute
  /-- Where the tag holds script: bodies, bindings and event handlers. -/
  scriptRegions : List Span
  parent : Option TagId
  children : List TagId
deriving DecidableEq, Repr

/-- The tags of one file. -/
structure MarkupDocument where
  path : Path
  tags : List MarkupTag
  root : Option TagId
deriving DecidableEq, Repr

/-- The attribute that names an external file in script and style tags. -/
def sourceAttribute : String := "source"

/-- The attribute that declares a field of the document's class. -/
def idAttribute : String := "id"

namespace MarkupTag

/-- Length of the namespace with its colon. -/
def spaceLength (t : MarkupTag) : Nat :=
  match t.name.space with
  | none => 0
  | some space => Text.byteLength space.toList + 1

/-- The name in the start tag without its namespace. -/
def localNameSpan (t : MarkupTag) : Span :=
  ⟨moveOffset t.nameSpan.start t.spaceLength, t.nameSpan.stop⟩

/-- The name in the end tag without its namespace. -/
def closeLocalNameSpan? (t : MarkupTag) : Option Span :=
  t.closeNameSpan.map fun close => ⟨moveOffset close.start t.spaceLength, close.stop⟩

/-- The offset lies on the namespace of a name that starts at `start`. -/
def isInSpaceFrom (t : MarkupTag) (start offset : Nat) : Bool :=
  start ≤ offset && offset < moveOffset start t.spaceLength

/-- The offset lies on the namespace of the name, in the start tag or the end tag. -/
def isInSpace (t : MarkupTag) (offset : Nat) : Bool :=
  t.name.space.isSome &&
    (t.isInSpaceFrom t.nameSpan.start offset ||
      t.closeNameSpan.any fun close => t.isInSpaceFrom close.start offset)

/-- The offset lies on the name, in the start tag or the end tag. -/
def isInName (t : MarkupTag) (offset : Nat) : Bool :=
  t.nameSpan.covers offset || t.closeNameSpan.any (·.covers offset)

/-- The offset lies behind the name in the start tag. -/
def isInAttributes (t : MarkupTag) (offset : Nat) : Bool :=
  t.nameSpan.stop < offset && offset < t.openSpan.stop

/-- The offset lies behind the start tag. -/
def isInContent (t : MarkupTag) (offset : Nat) : Bool :=
  t.openSpan.stop ≤ offset && offset < t.span.stop

/-- The first attribute whose value covers the offset, with its place. -/
def attributeValueAt? (t : MarkupTag) (offset : Nat) : Option (Nat × MarkupAttribute) :=
  (t.attributes.zipIdx.find? fun a => a.1.valueSpan.any (·.covers offset)).map fun a => (a.2, a.1)

/-- The place of the first attribute whose name covers the offset. -/
def attributeNameAt? (t : MarkupTag) (offset : Nat) : Option Nat :=
  t.attributes.findIdx? (·.nameSpan.covers offset)

/-- The first script region that covers the offset. -/
def scriptRegionAt? (t : MarkupTag) (offset : Nat) : Option Span :=
  t.scriptRegions.find? (·.covers offset)

end MarkupTag

namespace MarkupDocument

def tag? (m : MarkupDocument) (id : TagId) : Option MarkupTag :=
  m.tags[id.index]?

/-- The root tag with its handle. -/
def rootTag? (m : MarkupDocument) : Option (TagId × MarkupTag) :=
  m.root.bind fun id => (m.tag? id).map (id, ·)

end MarkupDocument

end SymbolNav
