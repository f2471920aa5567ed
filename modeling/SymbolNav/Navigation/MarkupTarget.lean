import SymbolNav.Navigation.Locate

/-!
# What an offset in markup means

Script bodies and bindings are compiled as script, so an offset in one of them is left to the script
node there. The names of tags and attributes are bound to definitions. The `source` attribute of a
script or style tag names a file. A namespace in front of a name means nothing by itself.
-/

namespace SymbolNav

inductive MarkupTarget where
  /-- A script node in the document. -/
  | script (node : NodeId)
  /-- The name of a tag or attribute that is bound to a definition. -/
  | definition (id : DefId)
  /-- The file that a `source` attribute names. -/
  | externalSource (path : Path)
  /-- The value of an attribute without script in it. -/
  | attributeValue (tag : TagId) (attr : Nat)
  /-- Markup that navigation has no use for. -/
  | nothing
  /-- Not a matter of markup: to be looked up as script. -/
  | fallthrough
deriving DecidableEq, Repr

namespace MarkupTag

/-- Script and style tags hold foreign text. -/
def holdsForeignText (t : MarkupTag) : Bool :=
  t.role ≠ .component

/-- The offset lies in the body of a script or style tag. -/
def isInForeignText (t : MarkupTag) (offset : Nat) : Bool :=
  t.holdsForeignText && t.isInContent offset

end MarkupTag

/-- The file that a `source` attribute names, next to the document unless its path is absolute. -/
def MarkupDocument.sourcePath (m : MarkupDocument) (value : String) : Path :=
  match m.path.parent? with
  | some directory => directory.join ⟨value⟩
  | none => ⟨value⟩

namespace Project

/-- The definition bound to the name of a tag or attribute at the offset. -/
def boundName? (p : Project) (u : UnitId) (id : TagId) (tag : MarkupTag) (offset : Nat) :
    Option DefId :=
  if tag.isInName offset then p.tagBinding? u id
  else (tag.attributeNameAt? offset).bind (p.attributeBinding? u id)

/-- What an offset on a tag means where no script stands. -/
def tagTarget (p : Project) (u : UnitId) (m : MarkupDocument) (id : TagId) (tag : MarkupTag)
    (offset : Nat) : MarkupTarget :=
  if tag.isInForeignText offset then .fallthrough
  else if tag.isInSpace offset then .nothing
  else match p.boundName? u id tag offset with
    | some d => .definition d
    | none =>
      match tag.attributeValueAt? offset with
      | none => .nothing
      | some (index, attr) =>
        if tag.holdsForeignText && tag.isInAttributes offset && attr.name = sourceAttribute then
          .externalSource (m.sourcePath attr.rawValue)
        else .attributeValue id index

/-- What an offset of a unit means as markup. -/
def markupTarget (p : Project) (u : UnitId) (offset : Nat) : Answer MarkupTarget :=
  match p.markup? u with
  | none => .ok .fallthrough
  | some m => do
    match ← m.tagAt offset with
    | none => .ok .fallthrough
    | some id =>
      match m.tag? id with
      | none => .ok .fallthrough
      | some tag =>
        match ← p.embeddedNode u tag offset with
        | some node => .ok (.script node)
        | none => .ok (p.tagTarget u m id tag offset)

end Project

end SymbolNav
