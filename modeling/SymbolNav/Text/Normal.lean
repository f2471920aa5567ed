import SymbolNav.Text.NormalTables

/-!
# Normal form of texts

The same text can be written in several ways, with letters and their marks apart or together. Its
normal form takes all characters apart, puts the marks of a letter into order, and then puts
together what can be put together.
-/

namespace SymbolNav.Text

/-- The combining class of a code point: zero for letters, and for marks where they attach. -/
def combiningClass (n : Nat) : Nat :=
  ((combiningClasses.find? fun row => inRanges row.2 n).map (·.1)).getD 0

/-! ## Hangul

A syllable is a leading consonant, a vowel and maybe a trailing consonant. -/

def leadBase : Nat := 0x1100

def leadCount : Nat := 19

def vowelBase : Nat := 0x1161

def vowelCount : Nat := 21

def trailBase : Nat := 0x11A7

def trailCount : Nat := 28

def syllableBase : Nat := 0xAC00

/-- The letters of a syllable. -/
def syllableLetters? (n : Nat) : Option (List Nat) :=
  if syllableBase ≤ n ∧ n < syllableBase + leadCount * vowelCount * trailCount then
    let index := n - syllableBase
    let lead := leadBase + index / (vowelCount * trailCount)
    let vowel := vowelBase + index / trailCount % vowelCount
    let trail := trailBase + index % trailCount
    some (if trail = trailBase then [lead, vowel] else [lead, vowel, trail])
  else none

/-- A consonant and a vowel, or a syllable without a trailing consonant and one. -/
def syllable? (a b : Nat) : Option Nat :=
  if leadBase ≤ a ∧ a < leadBase + leadCount ∧ vowelBase ≤ b ∧ b < vowelBase + vowelCount then
    some (syllableBase + ((a - leadBase) * vowelCount + (b - vowelBase)) * trailCount)
  else if syllableBase ≤ a ∧ a < syllableBase + leadCount * vowelCount * trailCount ∧
      (a - syllableBase) % trailCount = 0 ∧ trailBase < b ∧ b < trailBase + trailCount then
    some (a + (b - trailBase))
  else none

/-! ## Taking apart and putting together -/

/-- What a code point is decomposed to. A composite is decomposed again and again, at most `bound`
times. -/
def decompose : (bound : Nat) → Nat → List Nat
  | 0, n => [n]
  | bound + 1, n =>
    match syllableLetters? n with
    | some letters => letters
    | none =>
      match composites.lookup n with
      | some (first :: rest) => decompose bound first ++ rest
      | _ => (decomposites.lookup n).getD [n]

/-- No composite is nested deeper. -/
def decompositionBound : Nat := 8

/-- Put a mark in front of those behind which it belongs, in a text that is given backwards. -/
def insertMark (n : Nat) : List Nat → List Nat
  | [] => [n]
  | m :: before =>
    if 0 < combiningClass n ∧ combiningClass n < combiningClass m then m :: insertMark n before
    else n :: m :: before

/-- Put the marks of each letter into the order of their classes. -/
def orderMarks (text : List Nat) : List Nat :=
  (text.foldl (fun before n => insertMark n before) []).reverse

/-- What two code points are composed to. -/
def compose? (a b : Nat) : Option Nat :=
  (syllable? a b).or ((composites.find? (·.2 = [a, b])).map (·.1))

/-- A text that has been composed up to some place: what is done, the letter that marks may still
join, and the marks behind it that have not, the last one first. -/
structure Composing where
  done : List Nat := []
  letter : Option Nat := none
  marks : List Nat := []

namespace Composing

def text (c : Composing) : List Nat :=
  c.done ++ c.letter.toList ++ c.marks.reverse

/-- A mark behind one of the same or a higher class does not reach the letter. -/
def isBlocked (c : Composing) (n : Nat) : Bool :=
  c.marks.head?.any fun m => combiningClass n ≤ combiningClass m

/-- Go on with a code point. -/
def push (c : Composing) (n : Nat) : Composing :=
  let joined := if c.isBlocked n then none else c.letter.bind (compose? · n)
  match joined with
  | some letter => { c with letter := some letter }
  | none =>
    if combiningClass n = 0 then { done := c.text, letter := some n }
    else { c with marks := n :: c.marks }

end Composing

/-- The normal form of a text. -/
def normalForm (text : List Char) : List Char :=
  let apart := orderMarks (text.flatMap fun c => decompose decompositionBound c.toNat)
  (apart.foldl Composing.push {}).text.map Char.ofNat

end SymbolNav.Text
