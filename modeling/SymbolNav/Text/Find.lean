import SymbolNav.Text.Span
import SymbolNav.Text.Word

/-!
# Searching a text

Searches answer byte offsets. `occurrences` lists the places where a needle stands, each search
going on behind the occurrence before it, so that occurrences never overlap; an empty needle stands
at every character boundary. `wordOccurrences` keeps those that are not glued to the name characters
around them.
-/

namespace SymbolNav.Text

/-- Offset of the first place where the needle stands. -/
def find? (needle : List Char) : List Char → Option Nat
  | [] => if needle.isEmpty then some 0 else none
  | c :: text =>
    if needle.isPrefixOf (c :: text) then some 0
    else (find? needle text).map (c.utf8Size + ·)

/-- Offset of the first character with the given property. -/
def findChar? (p : Char → Bool) : List Char → Option Nat
  | [] => none
  | c :: text => if p c then some 0 else (findChar? p text).map (c.utf8Size + ·)

/-- Occurrences of the needle in a text that starts at `offset`, leaving out the next `skip`
characters, which belong to the occurrence before. -/
def occurrencesFrom (needle : List Char) : (skip offset : Nat) → List Char → List Nat
  | _, offset, [] => if needle.isEmpty then [offset] else []
  | skip + 1, offset, c :: text => occurrencesFrom needle skip (offset + c.utf8Size) text
  | 0, offset, c :: text =>
    if needle.isPrefixOf (c :: text) then
      offset :: occurrencesFrom needle (needle.length - 1) (offset + c.utf8Size) text
    else
      occurrencesFrom needle 0 (offset + c.utf8Size) text

/-- Offsets of the occurrences of the needle, from left to right and without overlap. -/
def occurrences (needle text : List Char) : List Nat :=
  occurrencesFrom needle 0 0 text

/-- The character that ends at the offset. -/
def charBefore? : List Char → Nat → Option Char
  | [], _ => none
  | c :: text, offset =>
    if offset = c.utf8Size then some c
    else if c.utf8Size < offset then charBefore? text (offset - c.utf8Size)
    else none

/-- The character that starts at the offset. -/
def charAt? (text : List Char) (offset : Nat) : Option Char :=
  (dropBytes? text offset).bind List.head?

/-- A needle that starts with a name character is not found right behind one, and a needle that
ends with a name character is not found right in front of one. -/
def standsAlone (text needle : List Char) (start : Nat) : Bool :=
  let glued (inner outer : Option Char) := inner.any isNameChar && outer.any isNameChar
  !glued needle.head? (charBefore? text start) &&
    !glued needle.getLast? (charAt? text (start + byteLength needle))

/-- The whole-word occurrences of the needle within a span of the text. -/
def wordOccurrences (text needle : List Char) (within : Span) : List Span :=
  match slice? text within with
  | none => []
  | some part =>
    ((occurrences needle part).map (within.start + ·)).filter (standsAlone text needle)
      |>.map fun start => ⟨start, start + byteLength needle⟩

/-- Whether the needle stands somewhere within the span as a whole word. -/
def hasWord (text needle : List Char) (within : Span) : Bool :=
  !(wordOccurrences text needle within).isEmpty

/-- Offset right behind the last line feed among the first `limit` bytes, or zero. -/
def lineStart (text : List Char) (limit : Nat) : Nat :=
  ((occurrences ['\n'] ((takeBytes? text limit).getD [])).getLast?.map (· + 1)).getD 0

/-- How many bytes follow until `depth` open blocks are closed, or until the text ends. -/
def closingOffset (depth : Nat) : List Char → Nat
  | [] => 0
  | c :: text =>
    if c = '\x7b' then c.utf8Size + closingOffset (depth + 1) text
    else if c = '\x7d' then
      if depth ≤ 1 then c.utf8Size else c.utf8Size + closingOffset (depth - 1) text
    else c.utf8Size + closingOffset depth text

/-- End of the block in curly brackets that opens after `offset`; the end of the text if the block
is not closed, and `offset` itself if none opens. -/
def blockEnd (text : List Char) (offset : Nat) : Nat :=
  match dropBytes? text offset with
  | none => offset
  | some rest =>
    match findChar? (· = '\x7b') rest with
    | none => offset
    | some skipped =>
      offset + skipped + closingOffset 0 ((dropBytes? rest skipped).getD [])

end SymbolNav.Text
