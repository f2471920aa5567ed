import SymbolNav.Json.Basic
import SymbolNav.Json.Number

/-!
# From JSON values to data

Data is read strictly: a number must be whole and in range, `null` stands only for an absent option,
and a member that is known must not stand twice. A record is written as an object, whose other
members are left alone, or as the array of its fields in order, where fields may be missing only at
the end.

Some objects share their members between a record and one of several variants. They have no array
form, and the members that do not belong to the record are kept until the variant is known, so they
must be values that can be kept: texts, finite numbers, and nesting within a limit.
-/

namespace SymbolNav

namespace Json

/-- A whole number at least zero and below the limit. -/
def nat? (limit : Nat) : Json → Option Nat
  | .int (.ofNat n) => if n < limit then some n else none
  | _ => none

/-- A whole number that fits into 64 bits with a sign. -/
def int64? : Json → Option Int
  | .int n =>
    if -Int.ofNat (Nat.pow 2 63) ≤ n ∧ n < Int.ofNat (Nat.pow 2 63) then some n else none
  | _ => none

def bool? : Json → Option Bool
  | .bool b => some b
  | _ => none

def text? : Json → Option String
  | .string s => s
  | _ => none

def list? (f : Json → Option α) : Json → Option (List α)
  | .array items => items.mapM f
  | _ => none

/-- An option: `null` or a value. -/
def nullable? (f : Json → Option α) : Json → Option (Option α)
  | .null => some none
  | j => (f j).map some

/-- The members of an object whose names all denote texts. -/
def named? (members : List (Option String × Json)) : Option (List (String × Json)) :=
  members.mapM fun m => m.1.map (·, m.2)

/-- One of several names, given by itself or as the only member of an object, with nothing behind
it. -/
def name? (names : List (String × α)) : Json → Option α
  | .string (some s) => names.lookup s
  | .object [(some s, .null)] => names.lookup s
  | _ => none

/-- One of several names in a value that has been kept, where an empty object counts as nothing. -/
def keptName? (names : List (String × α)) : Json → Option α
  | .object [(some s, .object [])] => names.lookup s
  | j => j.name? names

end Json

/-- The members of a record, by name. -/
structure Record where
  members : List (String × Json)

namespace Record

def get? (r : Record) (name : String) : Option Json :=
  r.members.lookup name

/-- None of the given members stands twice. -/
def unrepeated (members : List (String × Json)) (fields : List String) : Bool :=
  fields.all fun f => (members.filter (·.1 = f)).length ≤ 1

/-- A field that has to be there. -/
def required? (r : Record) (name : String) (f : Json → Option α) : Option α :=
  (r.get? name).bind f

/-- A field that stands for `default` when it is missing. -/
def field? (r : Record) (name : String) (f : Json → Option α) (default : α) : Option α :=
  match r.get? name with
  | none => some default
  | some j => f j

/-- A field that may be missing or `null`. -/
def optional? (r : Record) (name : String) (f : Json → Option α) : Option (Option α) :=
  r.field? name (Json.nullable? f) none

/-- The same members, if none of the given ones stands twice. -/
def select? (r : Record) (fields : List String) : Option Record :=
  if unrepeated r.members fields then some r else none

end Record

namespace Json

/-- A record with the given fields. -/
def record? (fields : List String) : Json → Option Record
  | .object members => (named? members).bind fun named => Record.select? ⟨named⟩ fields
  | .array items => if items.length ≤ fields.length then some ⟨fields.zip items⟩ else none
  | _ => none

mutual

/-- The value can be kept: its strings denote texts, its numbers are finite, and it is nested at
most `depth` deep. -/
def isKept : Nat → Json → Bool
  | _, .null => true
  | _, .bool _ => true
  | _, .int n => isFinite (Nat.toDigits 10 n.natAbs)
  | _, .real literal => isFinite literal
  | _, .string s => s.isSome
  | 0, .array _ => false
  | depth + 1, .array items => areItemsKept depth items
  | 0, .object _ => false
  | depth + 1, .object members => areMembersKept depth members

def areItemsKept : Nat → List Json → Bool
  | _, [] => true
  | depth, item :: more => isKept depth item && areItemsKept depth more

def areMembersKept : Nat → List (Option String × Json) → Bool
  | _, [] => true
  | depth, member :: more => isMemberKept depth member && areMembersKept depth more

def isMemberKept : Nat → Option String × Json → Bool
  | depth, (name, value) => name.isSome && isKept depth value

end

/-- An object that shares its members: a record with the given fields, and the other members. -/
def shared? (depth : Nat) (fields : List String) : Json → Option (Record × Record)
  | .object members => do
    let named ← named? members
    let (own, others) := named.partition fun m => fields.contains m.1
    let own ← Record.select? ⟨own⟩ fields
    if others.all fun m => m.2.isKept depth then some (own, ⟨others⟩) else none
  | _ => none

/-- A variant by its tag. Where the tag has been kept it may also be the number of the variant. -/
def tag? (kept : Bool) (names : List (String × α)) : Json → Option α
  | .string (some s) => names.lookup s
  | .int (.ofNat n) => if kept then names[n]?.map (·.2) else none
  | _ => none

end Json

end SymbolNav
