import SymbolNav.Snapshot.Reader
import SymbolNav.Url.Basic

/-!
# Parameters of protocol messages

Parameters are read strictly: what must be there is, has its type and its range. Members that are
not known are left alone. Parameters that are made of several records sharing one object have no
array form.
-/

namespace SymbolNav

namespace Json

/-- A record all of whose fields stand in its array form. -/
def fullRecord? (fields : List String) (j : Json) : Option Record :=
  match j with
  | .array items => if items.length = fields.length then record? fields j else none
  | _ => record? fields j

/-- A record in its object form. -/
def objectRecord? (fields : List String) (j : Json) : Option Record :=
  match j with
  | .object _ => record? fields j
  | _ => none

/-- A whole number that fits into 32 bits with a sign. -/
def int32? : Json → Option Int
  | .int n =>
    if -Int.ofNat (Nat.pow 2 31) ≤ n ∧ n < Int.ofNat (Nat.pow 2 31) then some n else none
  | _ => none

end Json

def Url.ofJson? (j : Json) : Option Url := j.text?.bind Url.parse?

def Position.ofJson? (j : Json) : Option Position := do
  let r ← j.fullRecord? ["line", "character"]
  some ⟨← r.required? "line" Json.index?, ← r.required? "character" Json.index?⟩

def PositionRange.ofJson? (j : Json) : Option PositionRange := do
  let r ← j.fullRecord? ["start", "end"]
  some ⟨← r.required? "start" Position.ofJson?, ← r.required? "end" Position.ofJson?⟩

namespace Protocol

/-- The address of a document. -/
def document? (j : Json) : Option Url := do
  (← j.fullRecord? ["uri"]).required? "uri" Url.ofJson?

/-- The token by which the client follows a request: a number or a text. -/
def token? (j : Json) : Option Unit :=
  if j.int32?.isSome || j.text?.isSome then some () else none

/-- A place in a document. -/
structure Place where
  url : Url
  position : Position
deriving DecidableEq, Repr

namespace Place

def ofRecord? (r : Record) : Option Place := do
  let url ← r.required? "textDocument" document?
  let position ← r.required? "position" Position.ofJson?
  let _ ← r.optional? "workDoneToken" token?
  some ⟨url, position⟩

/-- The place that a request about a symbol names. -/
def ofJson? (j : Json) : Option Place := do
  let r ← j.objectRecord? ["textDocument", "position", "workDoneToken", "partialResultToken"]
  let _ ← r.optional? "partialResultToken" token?
  ofRecord? r

end Place

/-- A place and the name that is to be given to what stands there. -/
structure RenameParams where
  place : Place
  newName : String
deriving DecidableEq, Repr

def RenameParams.ofJson? (j : Json) : Option RenameParams := do
  let r ← j.objectRecord? ["textDocument", "position", "newName", "workDoneToken"]
  some ⟨← Place.ofRecord? r, ← r.required? "newName" Json.text?⟩

/-- A document with a new text. -/
structure TextParams where
  url : Url
  text : String
deriving DecidableEq, Repr

/-- A document that the editor has opened. -/
def TextParams.ofOpened? (j : Json) : Option TextParams := do
  let r ← j.fullRecord? ["textDocument"]
  r.required? "textDocument" fun document => do
    let r ← document.fullRecord? ["uri", "languageId", "version", "text"]
    let url ← r.required? "uri" Url.ofJson?
    let _ ← r.required? "languageId" Json.text?
    let _ ← r.required? "version" Json.int32?
    some ⟨url, ← r.required? "text" Json.text?⟩

/-- A change of a document: its new text. -/
def change? (j : Json) : Option String := do
  let r ← j.fullRecord? ["range", "rangeLength", "text"]
  let _ ← r.optional? "range" PositionRange.ofJson?
  let _ ← r.optional? "rangeLength" Json.index?
  r.required? "text" Json.text?

/-- A document and its changes in order. -/
structure ChangeParams where
  url : Url
  changes : List String
deriving DecidableEq, Repr

def ChangeParams.ofJson? (j : Json) : Option ChangeParams := do
  let r ← j.fullRecord? ["textDocument", "contentChanges"]
  let url ← r.required? "textDocument" fun document => do
    let r ← document.fullRecord? ["uri", "version"]
    let _ ← r.required? "version" Json.int32?
    r.required? "uri" Url.ofJson?
  some ⟨url, ← r.required? "contentChanges" (Json.list? change?)⟩

/-- A document that the editor has closed. -/
def closed? (j : Json) : Option Url := do
  (← j.fullRecord? ["textDocument"]).required? "textDocument" document?

end Protocol

end SymbolNav
