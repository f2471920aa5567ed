import SymbolNav.Text.Digits

/-!
# Punycode

A label that holds characters outside ASCII can be written in ASCII. Its ASCII characters come
first, then a hyphen if there are any, and then numbers that tell which characters are put in
between and where. Digits are letters from `a` and then decimal digits, and a number ends with a
digit below a threshold that adapts to the numbers so far.
-/

namespace SymbolNav.Domain.Punycode

def base : Nat := 36

def lowestThreshold : Nat := 1

def highestThreshold : Nat := 26

/-- No number gets this large. -/
def limit : Nat := Nat.pow 2 32

def digit? (c : Char) : Option Nat :=
  if c.isDigit then some (c.toNat - '0'.toNat + 26)
  else if c.isAlpha then some (c.toLower.toNat - 'a'.toNat)
  else none

/-- The digit at the place `k` from which on a number goes on. -/
def threshold (k bias : Nat) : Nat :=
  min highestThreshold (max lowestThreshold (k - bias))

/-- The bias for a difference, which is scaled down first. -/
def scaledBias : (bound delta k : Nat) → Nat
  | 0, _, k => k
  | bound + 1, delta, k =>
    if (base - lowestThreshold) * highestThreshold / 2 < delta then
      scaledBias bound (delta / (base - lowestThreshold)) (k + base)
    else k + (base - lowestThreshold + 1) * delta / (delta + 38)

/-- The bias after a difference, with the count of characters that then stand. -/
def adapt (delta count : Nat) (first : Bool) : Nat :=
  let delta := if first then delta / 700 else delta / 2
  scaledBias limit.log2 (delta + delta / count) 0

/-- A number that is added to `sum`, and the text behind it. -/
def number? (bias : Nat) : (k weight sum : Nat) → List Char → Option (Nat × List Char)
  | _, _, _, [] => none
  | k, weight, sum, c :: rest => do
    let digit ← digit? c
    let sum := sum + digit * weight
    let t := threshold k bias
    if limit ≤ weight ∨ limit ≤ sum then none
    else if digit < t then some (sum, rest)
    else number? bias (k + base) (weight * (base - t)) sum rest

/-- Put characters into a text. Behind each number stands a shorter text, so there are at most as
many as characters. -/
def insertions? : (bound bias code place : Nat) → (label : List Char) → List Char →
    Option (List Char)
  | _, _, _, _, label, [] => some label
  | 0, _, _, _, _, _ => none
  | bound + 1, bias, code, place, label, text => do
    let (sum, rest) ← number? bias base 1 place text
    let count := label.length + 1
    let code := code + sum / count
    if code.isValidChar then
      let offset := sum % count
      insertions? bound (adapt (sum - place) count (place = 0)) code (offset + 1)
        (label.take offset ++ Char.ofNat code :: label.drop offset) rest
    else none

/-- The longest text that is decoded. -/
def lengthLimit : Nat := 2000

/-- The label that a text stands for. It must hold a character outside ASCII, so something has to
stand behind the last hyphen, and no text starts with its only hyphen. -/
def decode? (text : List Char) : Option (List Char) :=
  let back := (text.reverse.takeWhile (· ≠ '-')).reverse
  let front := text.take (text.length - back.length - 1)
  if lengthLimit < text.length ∨ text.any (0x80 ≤ ·.toNat) then none
  else if back = [] ∨ (front = [] ∧ back.length < text.length) then none
  else insertions? text.length 72 0x80 0 (front.map Char.toLower) back

end SymbolNav.Domain.Punycode
