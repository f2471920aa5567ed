/-!
# UTF-8 bytes

Percent signs in addresses stand for bytes. `encode` gives the bytes of a text and `decode` the text
of bytes; where bytes are not UTF-8, each longest beginning of a character and each stray byte is
shown as the replacement character.
-/

namespace SymbolNav.Text

/-- The UTF-8 form of a text. -/
def encode (text : List Char) : List UInt8 :=
  text.flatMap String.utf8EncodeChar

/-- Stands for bytes that are not UTF-8. -/
def replacement : Char := Char.ofNat 0xFFFD

/-- A byte that continues a character. -/
def isTail (b : UInt8) : Bool :=
  0x80 ≤ b && b ≤ 0xBF

/-- The second bytes that may follow the first byte of a longer character. -/
def isSecond (first b : UInt8) : Bool :=
  if first = 0xE0 then 0xA0 ≤ b && b ≤ 0xBF
  else if first = 0xED then 0x80 ≤ b && b ≤ 0x9F
  else if first = 0xF0 then 0x90 ≤ b && b ≤ 0xBF
  else if first = 0xF4 then 0x80 ≤ b && b ≤ 0x8F
  else isTail b

/-- Number of bytes that the first byte of a character announces behind it. -/
def tailCount (first : UInt8) : Option Nat :=
  if first < 0x80 then some 0
  else if 0xC2 ≤ first && first ≤ 0xDF then some 1
  else if 0xE0 ≤ first && first ≤ 0xEF then some 2
  else if 0xF0 ≤ first && first ≤ 0xF4 then some 3
  else none

/-- The bytes behind a first byte that belong to its character, `count` at most. -/
def tailBytes (first : UInt8) (count : Nat) (rest : List UInt8) : List UInt8 :=
  match rest.take count with
  | [] => []
  | second :: more => if isSecond first second then second :: more.takeWhile isTail else []

/-- The code point of a complete character. -/
def codePointOf (first : UInt8) (tail : List UInt8) : Nat :=
  let lead := match tail.length with
    | 0 => first.toNat
    | 1 => first.toNat - 0xC0
    | 2 => first.toNat - 0xE0
    | _ => first.toNat - 0xF0
  tail.foldl (fun n b => n * 64 + (b.toNat - 0x80)) lead

/-- The text of the bytes. -/
def decode : List UInt8 → List Char
  | [] => []
  | first :: rest =>
    match tailCount first with
    | none => replacement :: decode rest
    | some count =>
      let tail := tailBytes first count rest
      let c := if tail.length = count then Char.ofNat (codePointOf first tail) else replacement
      c :: decode (rest.drop tail.length)
termination_by bytes => bytes.length
decreasing_by
  all_goals simp only [List.length_cons, List.length_drop]
  all_goals omega

/-- The text of bytes that are UTF-8. -/
def decode? (bytes : List UInt8) : Option (List Char) :=
  let text := decode bytes
  if encode text = bytes then some text else none

end SymbolNav.Text
