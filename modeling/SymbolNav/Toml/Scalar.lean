import SymbolNav.Text.Digits
import SymbolNav.Toml.Basic

/-!
# Strings, numbers and dates

Readers for the values of TOML that hold no other values. Each answers what it read and the
characters behind it.
-/

namespace SymbolNav.Toml

/-- Space or tab. -/
def isSpace (c : Char) : Bool := c = ' ' || c = '\t'

def skipSpace (text : List Char) : List Char := text.dropWhile isSpace

/-- A line end: a line feed, or a carriage return and a line feed. -/
def newline? : List Char → Option (List Char)
  | '\n' :: rest => some rest
  | '\r' :: '\n' :: rest => some rest
  | _ => none

/-- Every character but control characters other than the tab. -/
def isPlain (c : Char) : Bool :=
  c = '\t' || (0x20 ≤ c.toNat && c.toNat ≠ 0x7F)

/-- Leave out a comment. -/
def skipComment : List Char → List Char
  | '#' :: rest => rest.dropWhile isPlain
  | text => text

/-- A character by its code point in `count` hexadecimal digits. -/
def codePoint? (count : Nat) (text : List Char) : Option (Char × List Char) := do
  if text.length < count then none
  let n ← Text.number? 16 (text.take count)
  if n.isValidChar then some (Char.ofNat n, text.drop count) else none

/-- What an escape behind its backslash stands for. -/
def escape? : List Char → Option (Char × List Char)
  | 'b' :: rest => some ('\x08', rest)
  | 't' :: rest => some ('\t', rest)
  | 'n' :: rest => some ('\n', rest)
  | 'f' :: rest => some ('\x0c', rest)
  | 'r' :: rest => some ('\r', rest)
  | '"' :: rest => some ('"', rest)
  | '\\' :: rest => some ('\\', rest)
  | 'u' :: rest => codePoint? 4 rest
  | 'U' :: rest => codePoint? 8 rest
  | _ => none

/-- A string on one line up to its closing quote. Only double quotes allow escapes. -/
def lineString? (quote : Char) : Nat → List Char → Option (List Char × List Char)
  | 0, _ => none
  | _, [] => none
  | bound + 1, c :: rest =>
    if c = quote then some ([], rest)
    else if c = '\\' ∧ quote = '"' then do
      let (e, rest) ← escape? rest
      let (more, rest) ← lineString? quote bound rest
      some (e :: more, rest)
    else if isPlain c then do
      let (more, rest) ← lineString? quote bound rest
      some (c :: more, rest)
    else none

/-- Leave out blanks and line ends. -/
def skipBlankLines : Nat → List Char → List Char
  | 0, text => text
  | bound + 1, text =>
    match newline? (skipSpace text) with
    | some rest => skipBlankLines bound rest
    | none => skipSpace text

/-- The text behind a backslash that ends a line: all blanks and line ends are left out. -/
def skipLineEnds? (text : List Char) : Option (List Char) :=
  (newline? (skipSpace text)).map fun rest => skipBlankLines (rest.length + 1) rest

/-- A string over several lines up to its closing quotes, in front of which one or two more may
stand. -/
def blockString? (quote : Char) : Nat → List Char → Option (List Char × List Char)
  | 0, _ => none
  | _, [] => none
  | bound + 1, c :: rest =>
    let quotes := ((c :: rest).takeWhile (· = quote)).length
    if 3 ≤ quotes then
      some (List.replicate (min quotes 5 - 3) quote, (c :: rest).drop (min quotes 5))
    else if c = '\\' ∧ quote = '"' then
      match skipLineEnds? rest with
      | some rest => blockString? quote bound rest
      | none => do
        let (e, rest) ← escape? rest
        let (more, rest) ← blockString? quote bound rest
        some (e :: more, rest)
    else match newline? (c :: rest) with
      | some rest => do
        let (more, rest) ← blockString? quote bound rest
        some ('\n' :: more, rest)
      | none =>
        if isPlain c then do
          let (more, rest) ← blockString? quote bound rest
          some (c :: more, rest)
        else none

/-- A string, at its opening quote. -/
def quotedText? : List Char → Option (String × List Char)
  | q :: rest =>
    let finish (r : Option (List Char × List Char)) :=
      r.map fun (s, rest) => (String.ofList s, rest)
    if q ≠ '"' ∧ q ≠ '\'' then none
    else if rest.take 2 = [q, q] then
      let body := rest.drop 2
      let body := (newline? body).getD body
      finish (blockString? q (body.length + 1) body)
    else finish (lineString? q (rest.length + 1) rest)
  | [] => none

/-- Digits with single underscores between them. -/
def isDigits (digit : Char → Bool) : List Char → Bool
  | [] => false
  | [c] => digit c
  | c :: '_' :: rest => digit c && isDigits digit rest
  | c :: rest => digit c && isDigits digit rest

/-- Decimal digits that do not start with a needless zero. -/
def isDecimal (digits : List Char) : Bool :=
  isDigits Char.isDigit digits && (digits.head? ≠ some '0' || digits.length = 1)

def dropSign : List Char → List Char
  | '+' :: rest => rest
  | '-' :: rest => rest
  | text => text

/-- A whole number within 64 bits. -/
def isInteger (token : List Char) : Bool :=
  let inBase (base : Nat) (digits : List Char) : Bool :=
    isDigits (Text.isDigitOf base) digits && Text.numberOf base digits < Nat.pow 2 63
  match token with
  | '0' :: 'x' :: digits => inBase 16 digits
  | '0' :: 'o' :: digits => inBase 8 digits
  | '0' :: 'b' :: digits => inBase 2 digits
  | _ =>
    let limit := if token.head? = some '-' then Nat.pow 2 63 + 1 else Nat.pow 2 63
    isDecimal (dropSign token) && Text.numberOf 10 (dropSign token) < limit

/-- A number with a fraction, an exponent or both, or one of the names for none. A positive number
must be finite as a double. -/
def isFloat (token : List Char) : Bool :=
  let unsigned := dropSign token
  if unsigned = "inf".toList ∨ unsigned = "nan".toList then true
  else
    let isMark (c : Char) : Bool := c = 'e' || c = 'E'
    let mantissa := unsigned.takeWhile (!isMark ·)
    let exponent := unsigned.dropWhile (!isMark ·)
    let whole := mantissa.takeWhile (· ≠ '.')
    let fraction := mantissa.dropWhile (· ≠ '.')
    isDecimal whole && (fraction ≠ [] || exponent ≠ []) &&
      (fraction = [] || isDigits Char.isDigit (fraction.drop 1)) &&
      (exponent = [] || isDigits Char.isDigit (dropSign (exponent.drop 1))) &&
      (token.head? = some '-' || Text.isFiniteDecimal whole fraction (exponent.drop 1))

/-- A number of exactly `count` decimal digits. -/
def fixed? (count : Nat) (text : List Char) : Option (Nat × List Char) :=
  let digits := text.take count
  if digits.length = count ∧ digits.all Char.isDigit then
    some (Text.numberOf 10 digits, text.drop count)
  else none

/-- A number of two digits between two bounds. -/
def twoDigits? (low high : Nat) (text : List Char) : Option (List Char) := do
  let (n, rest) ← fixed? 2 text
  if low ≤ n ∧ n ≤ high then some rest else none

/-- A given character. -/
def char? (c : Char) : List Char → Option (List Char)
  | d :: rest => if c = d then some rest else none
  | [] => none

def isLeapYear (year : Nat) : Bool :=
  year % 4 = 0 && (year % 100 ≠ 0 || year % 400 = 0)

def daysInMonth (year month : Nat) : Nat :=
  if month = 2 then if isLeapYear year then 29 else 28
  else if [4, 6, 9, 11].contains month then 30 else 31

/-- A date of year, month and day. -/
def fullDate? (text : List Char) : Option (List Char) := do
  let (year, rest) ← fixed? 4 text
  let (month, rest) ← fixed? 2 (← char? '-' rest)
  if month < 1 ∨ 12 < month then none
  twoDigits? 1 (daysInMonth year month) (← char? '-' rest)

/-- A fraction of a second, if there is one. -/
def secondFraction? : List Char → Option (List Char)
  | '.' :: rest =>
    if rest.head?.any Char.isDigit then some (rest.dropWhile Char.isDigit) else none
  | text => some text

/-- A time of day. -/
def partialTime? (text : List Char) : Option (List Char) := do
  let rest ← twoDigits? 0 23 text
  let rest ← twoDigits? 0 59 (← char? ':' rest)
  let rest ← twoDigits? 0 60 (← char? ':' rest)
  secondFraction? rest

/-- The offset of a time zone, if there is one. -/
def zone? : List Char → Option (List Char)
  | 'Z' :: rest => some rest
  | 'z' :: rest => some rest
  | '+' :: rest => do twoDigits? 0 59 (← char? ':' (← twoDigits? 0 23 rest))
  | '-' :: rest => do twoDigits? 0 59 (← char? ':' (← twoDigits? 0 23 rest))
  | text => some text

/-- A time seems to follow: two digits and a colon. -/
def looksLikeTime (text : List Char) : Bool :=
  (fixed? 2 text).any fun (_, rest) => rest.head? = some ':'

/-- A date seems to follow: four digits and a hyphen. -/
def looksLikeDate (text : List Char) : Bool :=
  (fixed? 4 text).any fun (_, rest) => rest.head? = some '-'

/-- A date, a time, or both. -/
def dateTime? (text : List Char) : Option (List Char) :=
  if looksLikeTime text then partialTime? text
  else do
    let rest ← fullDate? text
    match rest with
    | c :: more =>
      if (c = 'T' ∨ c = 't' ∨ c = ' ') ∧ looksLikeTime more then zone? (← partialTime? more)
      else some rest
    | [] => some []

/-- A number or date. -/
def numeric? (text : List Char) : Option (Toml × List Char) :=
  if looksLikeDate text || looksLikeTime text then (dateTime? text).map (.date, ·)
  else
    let isPart (c : Char) : Bool := c.isAlphanum || c = '+' || c = '-' || c = '_' || c = '.'
    let token := text.takeWhile isPart
    if isInteger token || isFloat token then some (.number, text.dropWhile isPart) else none

end SymbolNav.Toml
