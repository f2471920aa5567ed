import SymbolNav.Text.Span

/-!
# Editor positions

An editor addresses a text by line and column. Lines end at line feeds, and columns count UTF-16
code units from the start of the line. Both are words of 32 bits. `position?` turns a byte offset
into such a position: it counts lines and columns and keeps the last 32 bits of the counts.
`offset?` goes back: a column inside a surrogate pair moves up to the next character, a column past
the end of the line moves down to it, and the line feed with a carriage return right in front of it
is not part of the line. It counts no further than the column it looks for. So 32 bits are enough
for it, but for a surrogate pair across the very last column, which is taken to end behind it.
-/

namespace SymbolNav

/-- A zero-based line and a zero-based column in UTF-16 code units. -/
structure Position where
  line : Nat
  character : Nat
deriving DecidableEq, Repr, Inhabited

/-- Lines and columns are words of 32 bits, below this bound. -/
def columnLimit : Nat := Nat.pow 2 32

/-- The position with line and column in 32 bits. Past the last one they start again at zero. -/
def Position.wrapped (p : Position) : Position :=
  ⟨p.line % columnLimit, p.character % columnLimit⟩

theorem Position.wrapped_of_lt {p : Position} (hline : p.line < columnLimit)
    (hcharacter : p.character < columnLimit) : p.wrapped = p := by
  rw [wrapped, Nat.mod_eq_of_lt hline, Nat.mod_eq_of_lt hcharacter]

/-- The column `length` code units further on. Past the last column it starts again at zero. -/
def moveColumn (column length : Nat) : Nat :=
  (column + length) % columnLimit

theorem moveColumn_of_lt {column length : Nat} (h : column + length < columnLimit) :
    moveColumn column length = column + length :=
  Nat.mod_eq_of_lt h

/-- The part of a text between two positions. -/
structure PositionRange where
  start : Position
  stop : Position
deriving DecidableEq, Repr, Inhabited

namespace Text

/-- Walk `offset` bytes into `text`, starting at the given position. -/
def positionFrom? (here : Position) : List Char → Nat → Option Position
  | _, 0 => some here
  | [], _ + 1 => none
  | c :: text, n + 1 =>
    if c.utf8Size ≤ n + 1 then
      positionFrom?
        (if c = '\n' then ⟨here.line + 1, 0⟩ else ⟨here.line, here.character + utf16Size c⟩)
        text (n + 1 - c.utf8Size)
    else
      none

/-- The position of a byte offset, if the offset does not split a character. -/
def position? (text : List Char) (offset : Nat) : Option Position :=
  (positionFrom? ⟨0, 0⟩ text offset).map Position.wrapped

/-- The first line of the text, without its line feed and a carriage return in front of it. -/
def firstLine : List Char → List Char
  | [] => []
  | c :: text =>
    if c = '\n' then []
    else if c = '\r' ∧ text.head? = some '\n' then []
    else c :: firstLine text

/-- Offset of the first character boundary whose column is at least `column`, or of the end. -/
def columnOffset : List Char → Nat → Nat
  | [], _ => 0
  | _, 0 => 0
  | c :: line, column + 1 => c.utf8Size + columnOffset line (column + 1 - utf16Size c)

/-- The text from the start of the given line on. -/
def dropLines? : List Char → Nat → Option (List Char)
  | text, 0 => some text
  | [], _ + 1 => none
  | c :: text, n + 1 => dropLines? text (if c = '\n' then n else n + 1)

/-- The byte offset of a position, if the text has that line. -/
def offset? (text : List Char) (p : Position) : Option Nat :=
  (dropLines? text p.line).map fun rest =>
    byteLength text - byteLength rest + columnOffset (firstLine rest) p.character

/-- The positions of both ends of a span. -/
def range? (text : List Char) (s : Span) : Option PositionRange :=
  (position? text s.start).bind fun start =>
    (position? text s.stop).map fun stop => ⟨start, stop⟩

end Text

end SymbolNav
