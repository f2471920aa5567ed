/-!
# JSON values

A value keeps what its reader may still ask for: the members of an object stand in their order with
repetitions, whole numbers are apart from all others, and a string literal may denote no text.
-/

namespace SymbolNav

/-- A JSON value. -/
inductive Json where
  | null
  | bool (value : Bool)
  /-- A number without fraction and exponent, other than negative zero. -/
  | int (value : Int)
  /-- Any other number, as written. -/
  | real (literal : List Char)
  /-- A string; a literal with half of a surrogate pair denotes no text, which is `none`. -/
  | string (text : Option String)
  | array (items : List Json)
  | object (members : List (Option String × Json))
deriving Repr, Inhabited

namespace Json

/-- A string that denotes a text. -/
abbrev text (s : String) : Json := .string (some s)

/-- An object all of whose names denote texts. -/
def record (members : List (String × Json)) : Json :=
  .object (members.map fun m => (some m.1, m.2))

def ofNat (n : Nat) : Json := .int n

def list (f : α → Json) (items : List α) : Json := .array (items.map f)

/-- A value, or `null` in place of nothing. -/
def option (f : α → Json) : Option α → Json
  | none => .null
  | some a => f a

end Json

end SymbolNav
