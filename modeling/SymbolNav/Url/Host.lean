import SymbolNav.Domain.Basic
import SymbolNav.Url.Percent

/-!
# Hosts

The host of an address is a name or a number. Special schemes have domain names and numbers of four
bytes, all schemes have numbers of eight groups in square brackets, and the names of other schemes
are taken as they stand.
-/

namespace SymbolNav

namespace Url

/-- The host of an address. -/
inductive Host where
  /-- A domain name, by its labels. -/
  | domain (labels : List (List Char))
  /-- A number of four bytes. -/
  | bytes (value : Nat)
  /-- A number of eight groups of 16 bits. -/
  | groups (all : List Nat)
  /-- A name of a scheme that is not special. -/
  | plain (text : List Char)
deriving DecidableEq, Repr

namespace Host

/-! ## Numbers of four bytes -/

/-- A number below 2^32: decimal, octal after a zero, hexadecimal after `0x`. -/
def number? (text : List Char) : Option Nat :=
  match text with
  | [] => none
  | '0' :: 'x' :: digits => Text.number? 16 digits
  | '0' :: digit :: digits => Text.number? 8 (digit :: digits)
  | digits => Text.number? 10 digits

/-- The last label makes the name a number, well formed or not. -/
def isNumeric (label : List Char) : Bool :=
  !label.isEmpty && (label.all Char.isDigit || (number? label).isSome)

/-- The value of one to four numbers, the last of which fills up the rest. -/
def value? (numbers : List Nat) : Option Nat :=
  match numbers.reverse with
  | [] => none
  | last :: front =>
    if numbers.length ≤ 4 ∧ front.all (· < 256) ∧ last < Nat.pow 256 (5 - numbers.length) then
      some (front.reverse.zipIdx.foldr (fun (n, i) rest => n * Nat.pow 256 (3 - i) + rest) last)
    else none

/-! ## Numbers of eight groups -/

/-- Four decimal numbers below 256 without needless zeros, as two groups. -/
def byteGroups? (text : List Char) : Option (List Nat) := do
  let byte? (part : List Char) : Option Nat :=
    if part.head? = some '0' ∧ part.length ≠ 1 then none
    else if part.isEmpty then none
    else (Text.number? 10 part).filter (· < 256)
  match ← (text.splitOn '.').mapM byte? with
  | [a, b, c, d] => some [a * 256 + b, c * 256 + d]
  | _ => none

/-- Groups that have been read: all of them, and how many stand in front of the gap, if there is
one. -/
structure Groups where
  all : List Nat := []
  gap : Option Nat := none

/-- A gap stands for one group at least. -/
def Groups.count (g : Groups) : Nat :=
  g.all.length + if g.gap.isSome then 1 else 0

/-- The eight groups, with zeros for the gap. -/
def Groups.expand? (g : Groups) : Option (List Nat) :=
  match g.gap with
  | none => if g.all.length = 8 then some g.all else none
  | some gap =>
    if g.count ≤ 8 then
      some (g.all.take gap ++ List.replicate (8 - g.all.length) 0 ++ g.all.drop gap)
    else none

/-- Go on reading groups up to the end. Each takes a character at least. -/
def readGroups? : (bound : Nat) → Groups → List Char → Option Groups
  | _, g, [] => some g
  | 0, _, _ => none
  | bound + 1, g, c :: rest =>
    let text := c :: rest
    let digits := (text.take 4).takeWhile (Text.isDigitOf 16)
    let next : Groups := { g with all := g.all ++ [Text.numberOf 16 digits] }
    if 8 ≤ g.count then none
    else if c = ':' then
      if g.gap.isSome then none else readGroups? bound { g with gap := some g.all.length } rest
    else match text.drop digits.length with
      | [] => some next
      | ':' :: more => if more.isEmpty then none else readGroups? bound next more
      | '.' :: _ =>
        if 6 < g.count then none
        else (byteGroups? text).map fun two => { g with all := g.all ++ two }
      | _ => none

/-- The number in square brackets. A colon at its start begins the gap. -/
def groups? (text : List Char) : Option (List Nat) := do
  let start ← match text with
    | ':' :: ':' :: rest => some (({ gap := some 0 } : Groups), rest)
    | ':' :: _ => none
    | _ => some ({}, text)
  (← readGroups? text.length start.1 start.2).expand?

/-! ## Hosts -/

/-- A number in square brackets. -/
def bracketed? (inner : List Char) : Option Host :=
  if inner.getLast? = some ']' then (groups? inner.dropLast).map .groups else none

/-- A host of a special scheme. Percent signs are decoded first. A name whose last label is a
number, except for an empty one behind it, has to be one as a whole. -/
def special? (text : List Char) : Option Host :=
  match text with
  | '[' :: inner => bracketed? inner
  | _ => do
    let name ← Text.decode? (percentDecode text)
    let labels ← Domain.labels? name
    let named := if labels.length > 1 ∧ labels.getLast? = some [] then labels.dropLast else labels
    if labels = [[]] then none
    else if named.getLast?.any isNumeric then
      ((named.mapM number?).bind value?).map .bytes
    else some (.domain labels)

/-- Characters that no host may hold. -/
def isForbidden (c : Char) : Bool :=
  ['\x00', '\t', '\n', '\r', ' ', '#', '/', ':', '<', '>', '?', '@', '[', '\\', ']', '^',
    '|'].contains c

/-- A host of any other scheme. -/
def plain? (text : List Char) : Option Host :=
  match text with
  | '[' :: inner => bracketed? inner
  | _ => if text.any isForbidden then none else some (.plain (percentEncode [] text))

/-- The host of the machine itself, which counts as none. -/
def isLocal (h : Host) : Bool :=
  h = .domain ["localhost".toList] || h = .plain "localhost".toList

end Host

end Url

end SymbolNav
