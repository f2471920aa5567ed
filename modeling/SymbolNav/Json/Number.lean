import SymbolNav.Text.Digits

/-!
# Numbers that are kept

A number that is kept is held as a double. It is worked out from its leading digits, as many as fit
into 64 bits, and from a power of ten: both are rounded to doubles, and then their product is. So
next to the largest double a number may be out of range although the double nearest to it is finite.
-/

namespace SymbolNav.Json

/-- The significant digits of a number as a whole number, and the power of ten they are multiplied
by. -/
structure Scaled where
  significand : Nat
  exponent : Int
deriving DecidableEq, Repr

namespace Scaled

def significandLimit : Nat := Nat.pow 2 64

/-- The digits in front of the point. Those that do not fit any more only count as places. -/
def ofWhole : (significand : Nat) → List Char → Scaled
  | significand, [] => ⟨significand, 0⟩
  | significand, d :: digits =>
    let next := significand * 10 + Text.numberOf 10 [d]
    if next < significandLimit then ofWhole next digits
    else ⟨significand, (d :: digits).length⟩

/-- Go on with the digits behind the point. Those that do not fit any more do not count. -/
def addFraction : Scaled → List Char → Scaled
  | s, [] => s
  | s, d :: digits =>
    let next := s.significand * 10 + Text.numberOf 10 [d]
    if next < significandLimit then addFraction ⟨next, s.exponent - 1⟩ digits else s

/-- Multiply by a power of ten. -/
def shift (s : Scaled) (exponent : Int) : Scaled :=
  { s with exponent := s.exponent + exponent }

/-- The power of ten is one of those a double can hold, and the product is finite. Small numbers
become zero. -/
def isFinite (s : Scaled) : Bool :=
  match s.exponent with
  | .ofNat up =>
    s.significand = 0 ||
      (up ≤ 308 &&
        Text.roundToDouble s.significand * Text.roundToDouble (Nat.pow 10 up) < Text.doubleBound)
  | .negSucc _ => true

end Scaled

/-- A sign in front of digits, and the digits. -/
def splitSign : List Char → Bool × List Char
  | '-' :: digits => (true, digits)
  | '+' :: digits => (false, digits)
  | digits => (false, digits)

/-- The number can be kept. With an exponent of more than 31 bits that is so for zero and for
numbers that are next to it. -/
def isFinite (literal : List Char) : Bool :=
  let isMark (c : Char) : Bool := c = 'e' || c = 'E'
  let mantissa := (splitSign (literal.takeWhile (!isMark ·))).2
  let (negative, digits) := splitSign ((literal.dropWhile (!isMark ·)).drop 1)
  let whole := mantissa.takeWhile (· ≠ '.')
  let fraction := (mantissa.dropWhile (· ≠ '.')).drop 1
  let scaled := (Scaled.ofWhole 0 whole).addFraction fraction
  let exponent := Text.numberOf 10 digits
  if exponent < Nat.pow 2 31 then
    (scaled.shift (if negative then -(exponent : Int) else exponent)).isFinite
  else negative || scaled.significand = 0

end SymbolNav.Json
