/-!
# Spans and byte offsets

Texts are measured in the bytes of their UTF-8 form: an offset counts the bytes in front of a
place, and a span is a pair of offsets. Only some offsets fall between two characters; the others
lie inside a character or past the end, and the partial operations here answer `none` for them.
-/

namespace SymbolNav

/-- Offsets are words of 64 bits, below this bound. -/
def offsetLimit : Nat := Nat.pow 2 64

/-- The offset `length` bytes further on. Past the last offset it starts again at zero. -/
def moveOffset (offset length : Nat) : Nat :=
  (offset + length) % offsetLimit

theorem moveOffset_of_lt {offset length : Nat} (h : offset + length < offsetLimit) :
    moveOffset offset length = offset + length :=
  Nat.mod_eq_of_lt h

/-- A byte range from `start` up to `stop`. Spans come from outside, so the ends may stand in
either order and may lie outside the text they are meant for. -/
structure Span where
  start : Nat
  stop : Nat
deriving DecidableEq, Repr, Inhabited

namespace Span

/-- The offset lies in the half-open span. -/
def contains (s : Span) (offset : Nat) : Bool :=
  s.start ≤ offset && offset < s.stop

/-- The offset lies in the span or right at its end. -/
def covers (s : Span) (offset : Nat) : Bool :=
  s.start ≤ offset && offset ≤ s.stop

/-- Both ends of `t` lie within the bounds of `s`. -/
def encloses (s t : Span) : Bool :=
  s.start ≤ t.start && t.stop ≤ s.stop

@[simp] theorem contains_iff {s : Span} {offset : Nat} :
    s.contains offset ↔ s.start ≤ offset ∧ offset < s.stop := by
  simp [contains]

@[simp] theorem covers_iff {s : Span} {offset : Nat} :
    s.covers offset ↔ s.start ≤ offset ∧ offset ≤ s.stop := by
  simp [covers]

@[simp] theorem encloses_iff {s t : Span} :
    s.encloses t ↔ s.start ≤ t.start ∧ t.stop ≤ s.stop := by
  simp [encloses]

theorem covers_of_contains {s : Span} {offset : Nat} (h : s.contains offset) :
    s.covers offset := by
  simp only [contains_iff, covers_iff] at *
  omega

end Span

namespace Text

/-- Length of the UTF-8 form. -/
def byteLength (text : List Char) : Nat :=
  text.foldr (fun c length => c.utf8Size + length) 0

/-- Number of UTF-16 code units of a character: two outside the basic plane. -/
def utf16Size (c : Char) : Nat :=
  if c.val ≤ 0xFFFF then 1 else 2

theorem utf16Size_pos (c : Char) : 0 < utf16Size c := by
  unfold utf16Size
  split <;> decide

/-- Length of the UTF-16 form. -/
def utf16Length (text : List Char) : Nat :=
  text.foldr (fun c length => utf16Size c + length) 0

/-- The text after its first `n` bytes, if a character ends there. -/
def dropBytes? : List Char → Nat → Option (List Char)
  | text, 0 => some text
  | [], _ + 1 => none
  | c :: text, n + 1 =>
    if c.utf8Size ≤ n + 1 then dropBytes? text (n + 1 - c.utf8Size) else none

/-- The first `n` bytes of the text, if a character ends there. -/
def takeBytes? : List Char → Nat → Option (List Char)
  | _, 0 => some []
  | [], _ + 1 => none
  | c :: text, n + 1 =>
    if c.utf8Size ≤ n + 1 then (takeBytes? text (n + 1 - c.utf8Size)).map (c :: ·) else none

/-- The part of the text that a span delimits, if the span is upright and both ends fall between
characters. -/
def slice? (text : List Char) (s : Span) : Option (List Char) :=
  if s.start ≤ s.stop then
    (dropBytes? text s.start).bind (takeBytes? · (s.stop - s.start))
  else
    none

/-- An offset of the text that does not split a character. -/
def IsBoundary (text : List Char) (offset : Nat) : Prop :=
  (dropBytes? text offset).isSome

instance (text : List Char) (offset : Nat) : Decidable (IsBoundary text offset) :=
  inferInstanceAs (Decidable (_ = true))

@[simp] theorem byteLength_nil : byteLength [] = 0 := rfl

@[simp] theorem byteLength_cons (c : Char) (text : List Char) :
    byteLength (c :: text) = c.utf8Size + byteLength text := rfl

@[simp] theorem byteLength_append (s t : List Char) :
    byteLength (s ++ t) = byteLength s + byteLength t := by
  induction s with
  | nil => simp
  | cons c s ih => simp [ih, Nat.add_assoc]

@[simp] theorem utf16Length_nil : utf16Length [] = 0 := rfl

@[simp] theorem utf16Length_cons (c : Char) (text : List Char) :
    utf16Length (c :: text) = utf16Size c + utf16Length text := rfl

@[simp] theorem utf16Length_append (s t : List Char) :
    utf16Length (s ++ t) = utf16Length s + utf16Length t := by
  induction s with
  | nil => simp
  | cons c s ih => simp [ih, Nat.add_assoc]

end Text

end SymbolNav
