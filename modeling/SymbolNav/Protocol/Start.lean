import SymbolNav.Protocol.Capabilities

/-!
# Starting the server

What a client tells when it starts the server: where it works, and much else of which only the form
is looked at.
-/

namespace SymbolNav.Protocol

/-- Where the client works: its folders, and the root that older clients give. -/
structure StartParams where
  folders : List Url
  root : Option Url
deriving DecidableEq, Repr

/-- A workspace folder. -/
def folder? (j : Json) : Option Url := do
  let r ← j.fullRecord? ["uri", "name"]
  let _ ← r.required? "name" Json.text?
  r.required? "uri" Url.ofJson?

/-- The name and version of the client. -/
def client? (j : Json) : Option Unit := do
  let r ← j.fullRecord? ["name", "version"]
  let _ ← r.required? "name" Json.text?
  let _ ← r.optional? "version" Json.text?

/-- How much the client wants to be told. -/
def trace? : Json → Option Unit :=
  Json.name? [("off", ()), ("messages", ()), ("verbose", ())]

def StartParams.ofJson? (j : Json) : Option StartParams := do
  let r ← j.fullRecord? ["processId", "rootPath", "rootUri", "initializationOptions",
    "capabilities", "trace", "workspaceFolders", "clientInfo", "locale"]
  let _ ← r.optional? "processId" Json.index?
  let _ ← r.optional? "rootPath" Json.text?
  let root ← r.optional? "rootUri" Url.ofJson?
  let _ ← r.required? "capabilities" fun j => if Capabilities.shape false j then some () else none
  let _ ← r.optional? "trace" trace?
  let folders ← r.optional? "workspaceFolders" (Json.list? folder?)
  let _ ← r.optional? "clientInfo" client?
  let _ ← r.optional? "locale" Json.text?
  some ⟨folders.getD [], root⟩

end SymbolNav.Protocol
