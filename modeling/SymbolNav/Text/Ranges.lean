import SymbolNav.Text.Digits

/-!
# Tables of code points

Properties of characters are given by tables. A long table is written as a text of words, each of
which tells about one code point or range of them in hexadecimal.
-/

namespace SymbolNav.Text

/-- Whether one of the ranges holds the code point. -/
def inRanges (ranges : List (Nat × Nat)) (n : Nat) : Bool :=
  ranges.any fun r => r.1 ≤ n && n ≤ r.2

/-- The words between blanks and line ends. -/
def words (text : String) : List String :=
  ((text.splitOn "\n").flatMap (·.splitOn " ")).filter (· ≠ "")

/-- What stands in front of a mark, and what behind it if the mark is there. -/
def halves (mark word : String) : String × Option String :=
  match word.splitOn mark with
  | [front, back] => (front, some back)
  | _ => (word, none)

/-- A number in hexadecimal. -/
def hexadecimal (word : String) : Nat := numberOf 16 word.toList

/-- A range of code points, written as its ends with a hyphen between them or as one code point. -/
def rangeOf (word : String) : Nat × Nat :=
  let (first, last) := halves "-" word
  (hexadecimal first, hexadecimal (last.getD first))

def rangesOf (text : String) : List (Nat × Nat) := (words text).map rangeOf

/-- Code points with plus signs between them. -/
def sequenceOf (word : String) : List Nat := (word.splitOn "+").map hexadecimal

end SymbolNav.Text
