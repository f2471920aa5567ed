import SymbolNav.Text.Lines

/-!
# Documentation comments

A comment holds tags such as `@see Shape#draw()`. A tag knows its place as an editor shows it.
-/

namespace SymbolNav

/-- One tag of a documentation comment. Its position is that of the `@`. -/
structure DocTag where
  /-- The name behind the `@`. -/
  name : String
  /-- The text behind the name, blanks included. -/
  description : String
  line : Nat
  column : Nat
  endLine : Nat
  endColumn : Nat
deriving DecidableEq, Repr

/-- A documentation comment and its place in the text of its unit. -/
structure DocComment where
  span : Span
  tags : List DocTag
deriving DecidableEq, Repr

namespace DocTag

/-- The column right behind the name. -/
def descriptionColumn (t : DocTag) : Nat :=
  moveColumn t.column (1 + t.name.toList.length)

/-- The tags whose first word may be a reference. -/
def mayRefer (t : DocTag) : Bool :=
  ["see", "copy", "throws", "inheritDoc"].contains t.name

/-- The position is behind the `@` of a tag that fills part of one line. -/
def isAt (t : DocTag) (p : Position) : Bool :=
  t.line = p.line && t.endLine = t.line && t.column < p.character && p.character ≤ t.endColumn

end DocTag

/-- The first tag at the position that may hold a reference, with its place among the tags. -/
def DocComment.tagAt? (c : DocComment) (p : Position) : Option (Nat × DocTag) :=
  (c.tags.zipIdx.find? fun t => t.1.mayRefer && t.1.isAt p).map fun t => (t.2, t.1)

end SymbolNav
