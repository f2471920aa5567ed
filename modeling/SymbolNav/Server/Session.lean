import SymbolNav.Protocol.Writer
import SymbolNav.Server.Configuration
import SymbolNav.Server.Documents

/-!
# Sessions

A session begins with the client starting the server, and ends with the server being shut down and
asked to exit. In between documents are opened, changed and closed, and requests are answered.

Requests change nothing: `Session.answer` gives the reply to a request, `Session.heed` the session
after a notification. This includes a request that is never answered. The session goes on behind it,
which holds of a request that is stuck in a loop and not of one that has run out of stack.
-/

namespace SymbolNav

/-- How far a session has come. -/
inductive Phase where
  | waiting
  | running (configuration : Configuration)
  | stopped
  | ended

structure Session where
  disk : FileTree := {}
  /-- The project that the server was given beforehand. -/
  given : Option Project := none
  phase : Phase := .waiting
  documents : Documents := {}

/-- What a message brings about. -/
structure Outcome where
  session : Session
  reply : Reply := .silence
  notices : List Notice := []

namespace Reply

/-- The reply to a request. -/
def ofAnswer (toJson : α → Json) : Answer α → Reply
  | .ok a => .result (toJson a)
  | .error .cancelled => .failure .cancelled
  | .error .endless => .never

end Reply

namespace Session

def serverName : String := "as3lsp"

def serverVersion : String := "0.1.0"

/-- What the server tells about itself: documents are sent as a whole, and definitions and renames
are answered. -/
def introduction : Json :=
  .record [
    ("capabilities", .record [("textDocumentSync", .ofNat 1), ("definitionProvider", .bool true),
      ("renameProvider", .bool true)]),
    ("serverInfo", .record [("name", .text serverName), ("version", .text serverVersion)])]

def greeting : Notice := ⟨.info, "ActionScript language server initialized"⟩

/-- The document that a request is about, and what the request is answered from. -/
def source? (s : Session) (c : Configuration) (url : Url) : Option (SourceDocument × Context) :=
  (s.documents.source? s.disk c.options url).map fun document =>
    (document, { project := c.project.forSource document.path, options := c.options })

/-- Go to a definition. A document that cannot be read has none. -/
def definition (s : Session) (c : Configuration) (place : Protocol.Place) : Reply :=
  match s.source? c place.url with
  | none => .result DefinitionAnswer.nothing.toJson
  | some (document, ctx) =>
    .ofAnswer DefinitionAnswer.toJson (ctx.definition document place.position)

/-- Rename. In a document that cannot be read nothing changes. -/
def rename (s : Session) (c : Configuration) (p : Protocol.RenameParams) : Reply :=
  match s.source? c p.place.url with
  | none => .result emptyEdit
  | some (document, ctx) =>
    .ofAnswer RenameOutcome.toJson (ctx.rename document p.place.position p.newName)

/-- A reply that needs parameters. -/
def withParams (read : Json → Option α) (params : Option Json) (reply : α → Reply) : Reply :=
  match params.bind read with
  | none => .failure .invalidParams
  | some a => reply a

/-- The reply to a request while the server is running. Methods that only notify are no requests. -/
def answer (s : Session) (c : Configuration) (method : Method) (params : Option Json) : Reply :=
  match method with
  | .definition => withParams Protocol.Place.ofJson? params (s.definition c)
  | .rename => withParams Protocol.RenameParams.ofJson? params (s.rename c)
  | .unanswered shape =>
    .failure (if params.any (shape false) then .methodNotFound else .invalidParams)
  | _ => .failure .invalidRequest

/-- The documents after a notification. Of several changes the first one counts. Notifications with
bad parameters change nothing. -/
def heed (documents : Documents) (method : Method) (params : Option Json) : Documents :=
  match method with
  | .opened =>
    match params.bind Protocol.TextParams.ofOpened? with
    | some p => documents.insert p.url p.text
    | none => documents
  | .changed =>
    match params.bind Protocol.ChangeParams.ofJson? with
    | some ⟨url, text :: _⟩ => documents.insert url text
    | _ => documents
  | .closed =>
    match params.bind Protocol.closed? with
    | some url => documents.erase url
    | none => documents
  | _ => documents

/-- What the client is told after a notification. -/
def noticesAfter (c : Configuration) (method : Method) (params : Option Json) : List Notice :=
  match method with
  | .started =>
    if (params.bind (Json.fullRecord? [])).isSome then greeting :: c.status.toList else []
  | _ => []

/-- A message while the server is running. -/
def handleRunning (s : Session) (c : Configuration) (method : Method) (m : Message) : Outcome :=
  if m.isRequest then ⟨s, s.answer c method m.params, []⟩
  else
    ⟨{ s with documents := heed s.documents method m.params }, .silence,
      noticesAfter c method m.params⟩

/-- Why a message fails while the server is not running. -/
def whyNotRunning : Phase → Failure
  | .waiting => .notInitialized
  | _ => .invalidRequest

/-- Start the server. A request with bad parameters leaves it waiting. -/
def handleStart (s : Session) (m : Message) : Outcome :=
  match s.phase with
  | .waiting =>
    if m.isRequest then
      match m.params.bind Protocol.StartParams.ofJson? with
      | none => ⟨s, .failure .invalidParams, []⟩
      | some p =>
        ⟨{ s with phase := .running (.forRoot s.disk s.given p.workspace?) },
          .result introduction, []⟩
    else ⟨s, .silence, []⟩
  | _ => ⟨s, .refusal m .invalidRequest, []⟩

/-- Shut the server down. It stops also when the request is not well formed. -/
def handleShutDown (s : Session) (m : Message) : Outcome :=
  match s.phase with
  | .running _ =>
    let reply := if !m.isRequest then .silence
      else if m.params.isSome then .failure .invalidParams
      else .result .null
    ⟨{ s with phase := .stopped }, reply, []⟩
  | phase => ⟨s, .refusal m (whyNotRunning phase), []⟩

/-- What a message brings about. -/
def handle (s : Session) (m : Message) : Outcome :=
  match s.phase with
  | .ended => ⟨s, .gone, []⟩
  | phase =>
    match Method.ofName? m.method with
    | none => ⟨s, .refusal m .methodNotFound, []⟩
    | some .exit => ⟨{ s with phase := .ended }, .silence, []⟩
    | some .cancel => ⟨s, .refusal m .invalidRequest, []⟩
    | some .start => s.handleStart m
    | some .shutDown => s.handleShutDown m
    | some method =>
      match phase with
      | .running c => s.handleRunning c method m
      | phase => ⟨s, .refusal m (whyNotRunning phase), []⟩

/-- What messages bring about one after the other. -/
def run (s : Session) : List Message → List Outcome
  | [] => []
  | m :: rest =>
    let outcome := s.handle m
    outcome :: run outcome.session rest

end Session

end SymbolNav
