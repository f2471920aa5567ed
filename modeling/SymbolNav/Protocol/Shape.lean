import SymbolNav.Protocol.Params

/-!
# Shapes of protocol values

A shape says which values fit, for values of which nothing else is asked. Records are written as an
object, whose other members are left alone, or as the array of their fields in order. Records that
are made of several parts have no array form, and the members of the parts are kept until they are
looked at.
-/

namespace SymbolNav.Protocol

/-- Whether a value fits, which may depend on whether it has been kept. -/
abbrev Shape := (kept : Bool) → Json → Bool

/-- Where a field of a record has to be given. -/
inductive Presence where
  | always
  /-- In the array form only. -/
  | inArray
  | never
deriving DecidableEq, Repr

/-- A field of a record. -/
structure FieldShape where
  name : String
  shape : Shape
  presence : Presence

namespace Shape

/-- The values that can be read. -/
def readable (read : Json → Option α) : Shape := fun _ j => (read j).isSome

def any : Shape := fun _ _ => true

def bool : Shape := readable Json.bool?

def int32 : Shape := readable Json.int32?

def uint32 : Shape := readable Json.index?

/-- Any number. -/
def number : Shape := fun _ j =>
  match j with
  | .int _ => true
  | .real _ => true
  | _ => false

def text : Shape := readable Json.text?

def url : Shape := readable Url.ofJson?

/-- `null` or a value of the shape. -/
def nullable (shape : Shape) : Shape := fun kept j =>
  match j with
  | .null => true
  | _ => shape kept j

def list (item : Shape) : Shape := fun kept j =>
  match j with
  | .array items => items.all (item kept)
  | _ => false

/-- Two values of the shape. -/
def pair (item : Shape) : Shape := fun kept j =>
  match j with
  | .array [a, b] => item kept a && item kept b
  | _ => false

/-- An object with any names whose values have the shape. -/
def map (name : String → Bool) (value : Shape) : Shape := fun kept j =>
  match j with
  | .object members => members.all fun m => m.1.any name && value kept m.2
  | _ => false

/-- One of several names. -/
def oneOf (names : List String) : Shape := fun kept j =>
  let table := names.map (·, ())
  (if kept then j.keptName? table else j.name? table).isSome

/-- One of several shapes. The value is kept until one is found. -/
def union (shapes : List Shape) : Shape := fun _ j => shapes.any (· true j)

end Shape

namespace FieldShape

def required (name : String) (shape : Shape) : FieldShape := ⟨name, shape, .always⟩

/-- A field that may be `null` or missing. -/
def optional (name : String) (shape : Shape) : FieldShape := ⟨name, shape.nullable, .inArray⟩

/-- A field for which something else stands when it is missing. -/
def defaulted (name : String) (shape : Shape) : FieldShape := ⟨name, shape, .never⟩

/-- The field among the members of an object. -/
def fits (kept : Bool) (members : List (String × Json)) (f : FieldShape) : Bool :=
  match members.lookup f.name with
  | some j => f.shape kept j
  | none => f.presence ≠ .always

/-- The fields as the items of an array. Those at the end may be missing that stand for something
else then. -/
def fitItems (kept : Bool) : List FieldShape → List Json → Bool
  | [], [] => true
  | [], _ :: _ => false
  | f :: fields, [] => f.presence = .never && fitItems kept fields []
  | f :: fields, item :: items => f.shape kept item && fitItems kept fields items

end FieldShape

namespace Shape

open FieldShape (required optional defaulted fitItems)

def record (fields : List FieldShape) : Shape := fun kept j =>
  match j with
  | .object members => (Json.named? members).any fun named => fields.all (·.fits kept named)
  | .array items => fitItems kept fields items
  | _ => false

/-- A record of fields of its own and of those of its parts. -/
def composed (own parts : List FieldShape) : Shape := fun kept j =>
  match j with
  | .object members =>
    (Json.named? members).any fun named =>
      own.all (·.fits kept named) && parts.all (·.fits true named)
  | _ => false

/-- A record all of whose other members have the shape. -/
def extensible (own : List FieldShape) (other : Shape) : Shape := fun kept j =>
  match j with
  | .object members =>
    (Json.named? members).any fun named =>
      own.all (·.fits kept named) &&
        named.all fun m => own.any (·.name = m.1) || other true m.2
  | _ => false

/-- One of several records, by the name that a member of it gives. Its array form starts with the
name. -/
def tagged (tag : String) (variants : List (String × List FieldShape)) : Shape := fun kept j =>
  match j with
  | .object members =>
    (Json.named? members).any fun named =>
      ((named.lookup tag).bind (Json.tag? kept variants)).any fun fields =>
        fields.all (·.fits true named)
  | .array (name :: items) =>
    (name.tag? kept variants).any fun fields => fitItems true fields items
  | _ => false

/-! ## Values that many messages have -/

def document : Shape := readable document?

def position : Shape := readable Position.ofJson?

def range : Shape := readable PositionRange.ofJson?

def token : Shape := readable token?

def location : Shape := record [required "uri" url, required "range" range]

def textEdit : Shape := record [required "range" range, required "newText" text]

def command : Shape :=
  record [required "title" text, required "command" text, optional "arguments" (list any)]

/-- A text that is to be shown, plain or with its kind. -/
def markup : Shape :=
  union [text, record [required "kind" (oneOf ["plaintext", "markdown"]), required "value" text]]

end Shape

end SymbolNav.Protocol
