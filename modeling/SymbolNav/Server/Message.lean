import SymbolNav.Protocol.Requests

/-!
# Messages between editor and server

The editor sends requests, which are replied to, and notifications, which are not. A method is one
of the two. Methods that the protocol has and this server does not answer are known all the same:
their parameters are looked at before they are refused.
-/

namespace SymbolNav

/-- A message from the editor. -/
structure Message where
  method : String
  params : Option Json
  isRequest : Bool

/-- Why a request fails. -/
inductive Failure where
  | notInitialized
  | invalidRequest
  | methodNotFound
  | invalidParams
  | cancelled
deriving DecidableEq, Repr

namespace Failure

def code : Failure → Int
  | .notInitialized => -32002
  | .invalidRequest => -32600
  | .methodNotFound => -32601
  | .invalidParams => -32602
  | .cancelled => -32800

/-- What is said about a failure. For bad parameters that depends on the parameters. -/
def message? : Failure → Option String
  | .notInitialized => some "Server not initialized"
  | .invalidRequest => some "Invalid request"
  | .methodNotFound => some "Method not found"
  | .invalidParams => none
  | .cancelled => some "request was cancelled"

end Failure

/-- What becomes of a message. -/
inductive Reply where
  /-- A message that is not replied to. -/
  | silence
  | result (value : Json)
  | failure (reason : Failure)
  /-- A request that never comes to an end. One that runs out of stack is counted here too, although
  no later request is answered then either. -/
  | never
  /-- The server has gone. -/
  | gone

namespace Reply

/-- A failure, if there is someone to tell. -/
def refusal (m : Message) (reason : Failure) : Reply :=
  if m.isRequest then .failure reason else .silence

end Reply

/-- How serious a notice is. -/
inductive Severity where
  | warning
  | info
deriving DecidableEq, Repr

def Severity.code : Severity → Nat
  | .warning => 2
  | .info => 3

/-- A line for the log of the editor. -/
structure Notice where
  severity : Severity
  text : String
deriving DecidableEq, Repr

namespace Notice

def method : String := "window/logMessage"

def toJson (n : Notice) : Json :=
  .record [("type", .ofNat n.severity.code), ("message", .text n.text)]

end Notice

/-- The methods of the protocol. -/
inductive Method where
  | start
  | started
  | shutDown
  | exit
  | cancel
  | opened
  | changed
  | closed
  | definition
  | rename
  /-- A request that is not answered, and the shape of its parameters. -/
  | unanswered (params : Protocol.Shape)
  /-- A notification that changes nothing. -/
  | unheeded

namespace Method

/-- The methods that are answered or heeded. -/
def served : List (String × Method) :=
  [("initialize", .start), ("initialized", .started), ("shutdown", .shutDown), ("exit", .exit),
    ("$/cancelRequest", .cancel), ("textDocument/didOpen", .opened),
    ("textDocument/didChange", .changed), ("textDocument/didClose", .closed),
    ("textDocument/definition", .definition), ("textDocument/rename", .rename)]

/-- Notifications that change nothing. -/
def notifications : List String :=
  ["willSave", "didSave"].map ("textDocument/" ++ ·) ++
  ["didChangeConfiguration", "didChangeWorkspaceFolders", "didChangeWatchedFiles", "didCreateFiles",
    "didRenameFiles", "didDeleteFiles"].map ("workspace/" ++ ·)

/-- All methods by name. -/
def table : List (String × Method) :=
  served ++ Protocol.Requests.table.map (fun r => (r.1, .unanswered r.2)) ++
    notifications.map (·, .unheeded)

def ofName? (name : String) : Option Method := table.lookup name

end Method

end SymbolNav
