/-!
# Blank characters

`isBlank` is the property White_Space of the Unicode standard, 25 characters in all, and
`isAsciiBlank` the five of them that separate words in markup. Trimming and the first word of a text
are defined from the former.
-/

namespace SymbolNav.Text

/-- The characters with the property White_Space. -/
def isBlank (c : Char) : Bool :=
  let n := c.toNat
  (0x09 ≤ n && n ≤ 0x0D) || n == 0x20 || n == 0x85 || n == 0xA0 || n == 0x1680 ||
    (0x2000 ≤ n && n ≤ 0x200A) || n == 0x2028 || n == 0x2029 || n == 0x202F || n == 0x205F ||
    n == 0x3000

/-- Space, tab, line feed, form feed and carriage return. -/
def isAsciiBlank (c : Char) : Bool :=
  c == ' ' || c == '\t' || c == '\n' || c == '\x0c' || c == '\r'

/-- The text without the blanks it starts with. -/
def trimStart (text : List Char) : List Char :=
  text.dropWhile isBlank

/-- The text without the blanks it ends with. -/
def trimEnd (text : List Char) : List Char :=
  (text.reverse.dropWhile isBlank).reverse

/-- The characters up to the first blank, after the blanks the text starts with. -/
def firstWord (text : List Char) : List Char :=
  (trimStart text).takeWhile (!isBlank ·)

end SymbolNav.Text
