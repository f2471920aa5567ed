import SymbolNav.Json.Basic

/-!
# Writing JSON

Values are written without blanks. In strings only quotes, backslashes and control characters are
escaped, the latter by a letter where JSON has one and by four hexadecimal digits where it has none.
-/

namespace SymbolNav.Json

/-- A character inside a string literal. -/
def escapeChar (c : Char) : List Char :=
  if c = '"' then ['\\', '"']
  else if c = '\\' then ['\\', '\\']
  else if c = '\x08' then ['\\', 'b']
  else if c = '\x0c' then ['\\', 'f']
  else if c = '\n' then ['\\', 'n']
  else if c = '\r' then ['\\', 'r']
  else if c = '\t' then ['\\', 't']
  else if c.toNat < 0x20 then
    ['\\', 'u', '0', '0', Nat.digitChar (c.toNat / 16), Nat.digitChar (c.toNat % 16)]
  else [c]

/-- A string literal. A literal that denotes no text is written as half of a surrogate pair. -/
def renderText : Option String → List Char
  | some s => '"' :: s.toList.flatMap escapeChar ++ ['"']
  | none => ['"', '\\', 'u', 'd', '8', '0', '0', '"']

def renderInt : Int → List Char
  | .ofNat n => Nat.toDigits 10 n
  | .negSucc n => '-' :: Nat.toDigits 10 (n + 1)

mutual

/-- The characters of a value. -/
def render : Json → List Char
  | .null => ['n', 'u', 'l', 'l']
  | .bool true => ['t', 'r', 'u', 'e']
  | .bool false => ['f', 'a', 'l', 's', 'e']
  | .int n => renderInt n
  | .real literal => literal
  | .string s => renderText s
  | .array items => '[' :: renderItems items ++ [']']
  | .object members => '\x7b' :: renderMembers members ++ ['\x7d']

/-- Items with commas between them. -/
def renderItems : List Json → List Char
  | [] => []
  | [item] => item.render
  | item :: next :: more => item.render ++ ',' :: renderItems (next :: more)

/-- Members with commas between them. -/
def renderMembers : List (Option String × Json) → List Char
  | [] => []
  | [member] => renderMember member
  | member :: next :: more => renderMember member ++ ',' :: renderMembers (next :: more)

/-- A member: its name, a colon and its value. -/
def renderMember : Option String × Json → List Char
  | (name, value) => renderText name ++ ':' :: value.render

end

/-- The text of a value. -/
def toText (j : Json) : String :=
  String.ofList j.render

end SymbolNav.Json
