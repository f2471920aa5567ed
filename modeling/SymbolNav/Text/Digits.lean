/-!
# Digits and numbers

The numbers that digits denote in the formats read here, and the range in which a decimal number is
still finite as a double.
-/

namespace SymbolNav.Text

/-- The value of a hexadecimal digit in either case. -/
def digitValue? (c : Char) : Option Nat :=
  if c.isDigit then some (c.toNat - '0'.toNat)
  else if 'a' ≤ c ∧ c ≤ 'f' then some (c.toNat - 'a'.toNat + 10)
  else if 'A' ≤ c ∧ c ≤ 'F' then some (c.toNat - 'A'.toNat + 10)
  else none

/-- A digit of the base. -/
def isDigitOf (base : Nat) (c : Char) : Bool :=
  (digitValue? c).any (· < base)

/-- The number that digits of the base denote. -/
def number? (base : Nat) (digits : List Char) : Option Nat :=
  digits.foldlM (fun n c => ((digitValue? c).filter (· < base)).map (n * base + ·)) 0

/-- The number that the digits of a text denote, whatever stands between them. -/
def numberOf (base : Nat) (text : List Char) : Nat :=
  (number? base (text.filter (isDigitOf base))).getD 0

/-- From here on the nearest double is infinite. -/
def doubleBound : Nat := Nat.pow 2 1024 - Nat.pow 2 970

/-- The double nearest to a whole number, as a whole number: 53 binary digits, of two neighbours
equally near the even one. -/
def roundToDouble (n : Nat) : Nat :=
  let unit := Nat.pow 2 (Nat.log2 n - 52)
  let quotient := n / unit
  let rest := n % unit
  let up := unit < 2 * rest || (unit = 2 * rest && quotient % 2 = 1)
  (if up then quotient + 1 else quotient) * unit

/-- The number `digits · 10 ^ exponent` is finite as a double. A power above the number of the
digits makes no difference for negative exponents. -/
def fitsDouble (digits : Nat) (exponent : Int) : Bool :=
  match exponent with
  | .ofNat up => digits = 0 || (up < 400 && digits * Nat.pow 10 up < doubleBound)
  | .negSucc down => digits < doubleBound * Nat.pow 10 (min (down + 1) (Nat.log2 digits + 1))

/-- The decimal number with the given whole part, fraction and exponent is finite as a double. -/
def isFiniteDecimal (whole fraction exponent : List Char) : Bool :=
  let magnitude : Int := numberOf 10 exponent
  let places := (fraction.filter Char.isDigit).length
  fitsDouble (numberOf 10 (whole ++ fraction))
    ((if exponent.head? = some '-' then -magnitude else magnitude) - places)

end SymbolNav.Text
