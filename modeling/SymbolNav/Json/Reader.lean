import SymbolNav.Json.Basic
import SymbolNav.Text.Digits

/-!
# Reading JSON

The reader takes exactly the texts of the JSON grammar: no comments, no byte order mark, no comma
behind the last item, no leading zeros and no raw control characters in strings. Escapes may name
half of a surrogate pair; such a literal is well-formed and denotes no text.

Every function answers what it read and the characters behind it. Nested values are read with a
bound on their number, which the length of the text always meets.
-/

namespace SymbolNav.Json

def isBlank (c : Char) : Bool :=
  c = ' ' || c = '\t' || c = '\n' || c = '\r'

def skipBlanks (text : List Char) : List Char :=
  text.dropWhile isBlank

/-- Four hexadecimal digits. -/
def hexUnit? : List Char → Option (Nat × List Char)
  | a :: b :: c :: d :: rest => (Text.number? 16 [a, b, c, d]).map (·, rest)
  | _ => none

def isHighSurrogate (n : Nat) : Bool := 0xD800 ≤ n && n < 0xDC00

def isLowSurrogate (n : Nat) : Bool := 0xDC00 ≤ n && n < 0xE000

/-- The character of two surrogates. -/
def pairChar (high low : Nat) : Char :=
  Char.ofNat (0x10000 + (high - 0xD800) * 0x400 + (low - 0xDC00))

/-- The character that a letter behind a backslash stands for. -/
def shortEscape? (c : Char) : Option Char :=
  if c = '"' then some '"'
  else if c = '\\' then some '\\'
  else if c = '/' then some '/'
  else if c = 'b' then some '\x08'
  else if c = 'f' then some '\x0c'
  else if c = 'n' then some '\n'
  else if c = 'r' then some '\r'
  else if c = 't' then some '\t'
  else none

/-- What an escape behind its backslash stands for, `none` for a lone surrogate. -/
def escape? : List Char → Option (Option Char × List Char)
  | 'u' :: rest => do
    let (n, rest) ← hexUnit? rest
    if isHighSurrogate n then
      match rest with
      | '\\' :: 'u' :: more =>
        match hexUnit? more with
        | some (low, more) =>
          if isLowSurrogate low then some (some (pairChar n low), more) else some (none, rest)
        | none => none
      | _ => some (none, rest)
    else if isLowSurrogate n then some (none, rest)
    else some (some (Char.ofNat n), rest)
  | c :: rest => (shortEscape? c).map fun e => (some e, rest)
  | [] => none

/-- Put a character in front of a literal; a lone surrogate leaves it without a text. -/
def consText (c : Option Char) (s : Option (List Char)) : Option (List Char) :=
  c.bind fun c => s.map (c :: ·)

/-- The characters of a string literal up to its closing quote. -/
def stringBody? : Nat → List Char → Option (Option (List Char) × List Char)
  | 0, _ => none
  | _, [] => none
  | bound + 1, c :: rest =>
    if c = '"' then some (some [], rest)
    else if c = '\\' then do
      let (e, rest) ← escape? rest
      let (s, rest) ← stringBody? bound rest
      some (consText e s, rest)
    else if c.toNat < 0x20 then none
    else do
      let (s, rest) ← stringBody? bound rest
      some (consText (some c) s, rest)

/-- A string literal behind its opening quote. -/
def string? (text : List Char) : Option (Option String × List Char) :=
  (stringBody? (text.length + 1) text).map fun (s, rest) => (s.map String.ofList, rest)

/-- One or more digits. -/
def digits? (text : List Char) : Option (List Char × List Char) :=
  match text.takeWhile Char.isDigit with
  | [] => none
  | ds => some (ds, text.dropWhile Char.isDigit)

/-- One or more digits without a zero in front of others. -/
def whole? (text : List Char) : Option (List Char × List Char) := do
  let (ds, rest) ← digits? text
  if ds.head? = some '0' ∧ ds.length ≠ 1 then none else some (ds, rest)

/-- The fraction of a number, if it has one. -/
def fraction? : List Char → Option (List Char × List Char)
  | '.' :: rest => (digits? rest).map fun (ds, rest) => ('.' :: ds, rest)
  | text => some ([], text)

/-- The exponent of a number, if it has one. -/
def exponent? : List Char → Option (List Char × List Char)
  | c :: rest =>
    if c = 'e' ∨ c = 'E' then
      match rest with
      | s :: more =>
        if s = '+' ∨ s = '-' then (digits? more).map fun (ds, rest) => (c :: s :: ds, rest)
        else (digits? rest).map fun (ds, rest) => (c :: ds, rest)
      | [] => none
    else some ([], c :: rest)
  | [] => some ([], [])

/-- A number behind its sign. -/
def unsigned? (negative : Bool) (text : List Char) : Option (Json × List Char) := do
  let (ds, rest) ← whole? text
  let (frac, rest) ← fraction? rest
  let (exp, rest) ← exponent? rest
  let n := Text.numberOf 10 ds
  if frac = [] ∧ exp = [] ∧ ¬(negative ∧ n = 0) then
    some (.int (if negative then -(n : Int) else n), rest)
  else
    some (.real ((if negative then ['-'] else []) ++ ds ++ frac ++ exp), rest)

def number? : List Char → Option (Json × List Char)
  | '-' :: rest => unsigned? true rest
  | text => unsigned? false text

/-- A literal name. -/
def word? (name : List Char) (value : Json) (text : List Char) : Option (Json × List Char) :=
  if name.isPrefixOf text then some (value, text.drop name.length) else none

mutual

/-- A value, with blanks in front of it. -/
def value? : Nat → List Char → Option (Json × List Char)
  | 0, _ => none
  | bound + 1, text =>
    match skipBlanks text with
    | [] => none
    | c :: rest =>
      if c = 'n' then word? ['u', 'l', 'l'] .null rest
      else if c = 't' then word? ['r', 'u', 'e'] (.bool true) rest
      else if c = 'f' then word? ['a', 'l', 's', 'e'] (.bool false) rest
      else if c = '"' then (string? rest).map fun (s, rest) => (.string s, rest)
      else if c = '[' then
        match skipBlanks rest with
        | ']' :: rest => some (.array [], rest)
        | _ => (items? bound rest).map fun (items, rest) => (.array items, rest)
      else if c = '\x7b' then
        match skipBlanks rest with
        | '\x7d' :: rest => some (.object [], rest)
        | _ => (members? bound rest).map fun (members, rest) => (.object members, rest)
      else number? (c :: rest)

/-- One or more items up to the closing bracket. -/
def items? : Nat → List Char → Option (List Json × List Char)
  | 0, _ => none
  | bound + 1, text => do
    let (item, rest) ← value? bound text
    match skipBlanks rest with
    | ',' :: rest =>
      let (items, rest) ← items? bound rest
      some (item :: items, rest)
    | ']' :: rest => some ([item], rest)
    | _ => none

/-- One or more members up to the closing bracket. -/
def members? : Nat → List Char → Option (List (Option String × Json) × List Char)
  | 0, _ => none
  | bound + 1, text =>
    match skipBlanks text with
    | '"' :: rest => do
      let (name, rest) ← string? rest
      match skipBlanks rest with
      | ':' :: rest =>
        let (value, rest) ← value? bound rest
        match skipBlanks rest with
        | ',' :: rest =>
          let (members, rest) ← members? bound rest
          some ((name, value) :: members, rest)
        | '\x7d' :: rest => some ([(name, value)], rest)
        | _ => none
      | _ => none
    | _ => none

end

/-- The value that a whole text denotes. -/
def parse? (text : String) : Option Json := do
  let cs := text.toList
  let (value, rest) ← value? (2 * cs.length + 2) cs
  if skipBlanks rest = [] then some value else none

end SymbolNav.Json
