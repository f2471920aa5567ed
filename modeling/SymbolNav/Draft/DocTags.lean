import SymbolNav.Snapshot.DocComment
import SymbolNav.Text.Blank
import SymbolNav.Text.Find

/-!
# Tags of a documentation comment

A tag is an `@` at the start of the text or behind a blank or an asterisk, with a name of ASCII
letters and digits behind it. Its description is the rest of its line, up to the end of the comment
and without the blanks at the end.
-/

namespace SymbolNav.Draft

/-- The characters of a text that lie within its first `n` bytes. -/
def within : Nat → List Char → List Char
  | _, [] => []
  | n, c :: text => if c.utf8Size ≤ n then c :: within (n - c.utf8Size) text else []

/-- The text in front of the first place where the needle stands. -/
def before (needle : List Char) : List Char → List Char
  | [] => []
  | c :: text => if needle.isPrefixOf (c :: text) then [] else c :: before needle text

/-- The characters that may stand in front of a tag. -/
def mayPrecedeTag (c : Char) : Bool :=
  c = ' ' || c = '\t' || c = '*'

/-- The description that follows the name of a tag, in a comment that has `room` bytes left. -/
def descriptionIn (room : Nat) (rest : List Char) : List Char :=
  Text.trimEnd (before ['*', '/'] (within room (rest.takeWhile (· ≠ '\n'))))

/-- The tag whose `@` stands at `offset` of the text, in front of `rest`. -/
def docTagAt? (text : List Char) (stop offset : Nat) (rest : List Char) : Option DocTag :=
  let name := rest.takeWhile Char.isAlphanum
  if name = [] then none
  else
    let nameStop := offset + 1 + Text.byteLength name
    let description := descriptionIn (stop - nameStop) (rest.dropWhile Char.isAlphanum)
    (Text.position? text offset).bind fun first =>
      (Text.position? text (nameStop + Text.byteLength description)).map fun last =>
        { name := String.ofList name
          description := String.ofList description
          line := first.line
          column := first.character
          endLine := last.line
          endColumn := last.character }

/-- The tags between `offset` and the end of a comment. -/
def docTagsFrom (text : List Char) (stop : Nat) :
    (offset : Nat) → (previous : Option Char) → List Char → List DocTag
  | _, _, [] => []
  | offset, previous, c :: rest =>
    if offset < stop then
      let own :=
        if c = '@' ∧ previous.all mayPrecedeTag then docTagAt? text stop offset rest else none
      own.toList ++ docTagsFrom text stop (offset + c.utf8Size) (some c) rest
    else []

/-- The tags of a comment. -/
def docTags (text : List Char) (comment : Span) : List DocTag :=
  docTagsFrom text comment.stop comment.start (Text.charBefore? text comment.start)
    ((Text.dropBytes? text comment.start).getD [])

/-- The comment that starts at an offset, up to its end mark or the end of the text. -/
def docCommentAt (text : List Char) (start : Nat) : DocComment :=
  let rest := (Text.dropBytes? text start).getD []
  let stop := match Text.find? ['*', '/'] rest with
    | some length => start + length + 2
    | none => Text.byteLength text
  ⟨⟨start, stop⟩, docTags text ⟨start, stop⟩⟩

end SymbolNav.Draft
