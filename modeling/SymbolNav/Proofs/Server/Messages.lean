import SymbolNav.Server.Session

/-!
# What messages do to a session

Two kinds of messages make up the work of a running server: events, which tell about the text of a
document, and questions, which are requests about a place in one. `session_handle` says all that a
message can do to a session. Its phase moves on in a way that no document has a part in, and its
documents change by events only. `handle_of_question?` says what a question is answered from: the
configuration, the disk, and of all open texts the one of the document that it is about.
-/

namespace SymbolNav

/-- What the client tells about the text of a document. Changes are whole texts, in the order in
which they are to be made. -/
inductive TextEvent where
  | opened (url : Url) (text : String)
  | changed (url : Url) (texts : List String)
  | closed (url : Url)
deriving DecidableEq, Repr

namespace TextEvent

/-- The document that an event is about. -/
def url : TextEvent → Url
  | .opened url _ => url
  | .changed url _ => url
  | .closed url => url

/-- The documents after an event. Of several changes the first one counts. -/
def store (d : Documents) : TextEvent → Documents
  | .opened url text => d.insert url text
  | .changed url (text :: _) => d.insert url text
  | .changed _ [] => d
  | .closed url => d.erase url

/-- An event leaves the texts of all other documents alone. -/
theorem text?_store_of_ne {e : TextEvent} {url : Url} (h : e.url ≠ url) (d : Documents) :
    (e.store d).text? url = d.text? url := by
  cases e with
  | opened other text => rw [store, Documents.text?_insert, if_neg fun he => h he.symm]
  | changed other texts =>
      cases texts with
      | nil => rfl
      | cons text more => rw [store, Documents.text?_insert, if_neg fun he => h he.symm]
  | closed other => rw [store, Documents.text?_erase, if_neg fun he => h he.symm]

end TextEvent

/-- A request about a place in a document. -/
inductive Question where
  | definition (place : Protocol.Place)
  | rename (params : Protocol.RenameParams)

namespace Question

/-- The document that a question is about. -/
def url : Question → Url
  | .definition place => place.url
  | .rename params => params.place.url

/-- The reply to a question, from the document with the text that counts. -/
def reply (c : Configuration) (document : Option SourceDocument) : Question → Reply
  | .definition place =>
    match document with
    | none => .result DefinitionAnswer.nothing.toJson
    | some document =>
      .ofAnswer DefinitionAnswer.toJson
        (Context.definition { project := c.project.forSource document.path, options := c.options }
          document place.position)
  | .rename params =>
    match document with
    | none => .result emptyEdit
    | some document =>
      .ofAnswer RenameOutcome.toJson
        (Context.rename { project := c.project.forSource document.path, options := c.options }
          document params.place.position params.newName)

end Question

namespace Message

/-- The event that a notification tells of. -/
def textEvent? (m : Message) : Option TextEvent :=
  if m.isRequest then none
  else match Method.ofName? m.method with
    | some .opened =>
      (m.params.bind Protocol.TextParams.ofOpened?).map fun p => .opened p.url p.text
    | some .changed =>
      (m.params.bind Protocol.ChangeParams.ofJson?).map fun p => .changed p.url p.changes
    | some .closed => (m.params.bind Protocol.closed?).map .closed
    | _ => none

/-- The message is a request for a definition or to rename, whatever its parameters. -/
def IsQuestion (m : Message) : Prop :=
  m.isRequest ∧
    (Method.ofName? m.method = some .definition ∨ Method.ofName? m.method = some .rename)

/-- The question that a request asks, if its parameters can be read. -/
def question? (m : Message) : Option Question :=
  if m.isRequest then
    match Method.ofName? m.method with
    | some .definition => (m.params.bind Protocol.Place.ofJson?).map .definition
    | some .rename => (m.params.bind Protocol.RenameParams.ofJson?).map .rename
    | _ => none
  else none

variable {m : Message}

theorem isQuestion_of_question? {q : Question} (h : m.question? = some q) : m.IsQuestion := by
  unfold question? at h
  split at h
  · rename_i hrequest
    split at h
    · exact ⟨hrequest, Or.inl ‹_›⟩
    · exact ⟨hrequest, Or.inr ‹_›⟩
    · cases h
  · cases h

theorem ofName?_of_textEvent? {e : TextEvent} (h : m.textEvent? = some e) :
    Method.ofName? m.method = some .opened ∨ Method.ofName? m.method = some .changed ∨
      Method.ofName? m.method = some .closed := by
  unfold textEvent? at h
  split at h
  · cases h
  · split at h
    · exact Or.inl ‹_›
    · exact Or.inr (Or.inl ‹_›)
    · exact Or.inr (Or.inr ‹_›)
    · cases h

end Message

/-- The document of an address: the file that it names, with the open text or else its own. -/
def Url.document? (disk : FileTree) (options : Options) (url : Url) (openText : Option String) :
    Option SourceDocument := do
  let name ← url.fileName?
  let path ← name.path?
  let text ← openText.or (disk.read path).toOption
  some ⟨path, options.dialectOf name, text⟩

/-- Of the open documents, a request sees the one that it is about. -/
theorem Documents.source?_eq (d : Documents) (disk : FileTree) (options : Options) (url : Url) :
    d.source? disk options url = url.document? disk options (d.text? url) := by
  unfold source? file? Url.document?
  cases url.fileName? with
  | none => rfl
  | some name =>
      cases hpath : name.path? with
      | none =>
          cases d.text? url with
          | none => simp [hpath]
          | some text => simp [hpath]
      | some path =>
          cases d.text? url with
          | none => simp [hpath, Option.bind_assoc]
          | some text => simp [hpath]

namespace Session

/-- How far a session has come after a message. -/
def phaseAfter (s : Session) (m : Message) : Phase :=
  match s.phase, Method.ofName? m.method with
  | .ended, _ => .ended
  | _, some .exit => .ended
  | .running _, some .shutDown => .stopped
  | .waiting, some .start =>
    match (if m.isRequest then m.params.bind Protocol.StartParams.ofJson? else none) with
    | none => .waiting
    | some p => .running (.forRoot s.disk s.given p.workspace?)
  | phase, _ => phase

/-- The documents after a message: while the server is running, events change them. -/
def documentsAfter (s : Session) (m : Message) : Documents :=
  match s.phase with
  | .running _ => (m.textEvent?.map (·.store s.documents)).getD s.documents
  | _ => s.documents

variable {s : Session} {c : Configuration} {m : Message}

/-- While the server is running, the documents change as the event of a notification says. -/
theorem heed_eq (documents : Documents) {method : Method} (hrequest : m.isRequest = false)
    (hmethod : Method.ofName? m.method = some method) :
    heed documents method m.params = (m.textEvent?.map (·.store documents)).getD documents := by
  unfold heed Message.textEvent?
  rw [hrequest, hmethod]
  cases method with
  | opened =>
      cases m.params.bind Protocol.TextParams.ofOpened? with
      | none => rfl
      | some p => rfl
  | changed =>
      cases m.params.bind Protocol.ChangeParams.ofJson? with
      | none => rfl
      | some p =>
          obtain ⟨url, _ | ⟨text, more⟩⟩ := p
          · rfl
          · rfl
  | closed =>
      cases m.params.bind Protocol.closed? with
      | none => rfl
      | some url => rfl
  | _ => rfl

theorem session_handleRunning {method : Method} (hmethod : Method.ofName? m.method = some method) :
    (s.handleRunning c method m).session =
      { s with documents := (m.textEvent?.map (·.store s.documents)).getD s.documents } := by
  unfold handleRunning
  cases hrequest : m.isRequest with
  | true => simp [Message.textEvent?, hrequest]
  | false =>
      rw [← heed_eq s.documents hrequest hmethod]
      rfl

theorem session_handleStart (hwaiting : s.phase = .waiting)
    (hmethod : Method.ofName? m.method = some .start) :
    (s.handleStart m).session = { s with phase := s.phaseAfter m } := by
  unfold handleStart phaseAfter
  rw [hwaiting, hmethod]
  cases m.isRequest with
  | false => simp [← hwaiting]
  | true =>
      cases m.params.bind Protocol.StartParams.ofJson? with
      | none => simp [← hwaiting]
      | some p => rfl

/-- All that a message does to a session. -/
theorem session_handle (s : Session) (m : Message) :
    (s.handle m).session = { s with phase := s.phaseAfter m, documents := s.documentsAfter m } := by
  obtain ⟨disk, given, phase, documents⟩ := s
  cases hmethod : Method.ofName? m.method with
  | none =>
      have hevent : m.textEvent? = none := by simp [Message.textEvent?, hmethod]
      cases phase <;> simp [handle, phaseAfter, documentsAfter, hmethod, hevent]
  | some method =>
      cases phase with
      | ended => rfl
      | stopped =>
          cases method <;>
            simp [handle, phaseAfter, documentsAfter, hmethod, handleStart, handleShutDown]
      | waiting =>
          cases method with
          | start =>
              simp only [handle, hmethod]
              exact session_handleStart rfl hmethod
          | _ => simp [handle, phaseAfter, documentsAfter, hmethod, handleShutDown]
      | running c =>
          cases method with
          | start =>
              simp [handle, phaseAfter, documentsAfter, hmethod, handleStart, Message.textEvent?]
          | exit => simp [handle, phaseAfter, documentsAfter, hmethod, Message.textEvent?]
          | cancel => simp [handle, phaseAfter, documentsAfter, hmethod, Message.textEvent?]
          | shutDown =>
              simp [handle, phaseAfter, documentsAfter, hmethod, handleShutDown, Message.textEvent?]
          | _ =>
              simp only [handle, phaseAfter, hmethod]
              exact session_handleRunning hmethod

/-! ### Questions -/

/-- A question changes nothing. -/
theorem session_handle_of_isQuestion (s : Session) (h : m.IsQuestion) :
    (s.handle m).session = s := by
  obtain ⟨hrequest, hmethod⟩ := h
  have hevent : m.textEvent? = none := by simp [Message.textEvent?, hrequest]
  obtain ⟨disk, given, phase, documents⟩ := s
  rw [session_handle]
  rcases hmethod with hmethod | hmethod <;>
    cases phase <;> simp [phaseAfter, documentsAfter, hmethod, hevent]

/-- A question is answered from the text of its own document. -/
theorem handle_of_question? {q : Question} (hrunning : s.phase = .running c)
    (h : m.question? = some q) :
    s.handle m =
      ⟨s, q.reply c (q.url.document? s.disk c.options (s.documents.text? q.url)), []⟩ := by
  have hquestion := Message.isQuestion_of_question? h
  unfold Message.question? at h
  obtain ⟨hrequest, hmethod | hmethod⟩ := hquestion
  · rw [hrequest, hmethod] at h
    obtain ⟨place, hplace, rfl⟩ := Option.map_eq_some_iff.mp h
    simp only [handle, hrunning, hmethod, handleRunning, hrequest, answer, withParams, hplace,
      Session.definition, source?, Documents.source?_eq, Question.reply, Question.url]
    cases place.url.document? s.disk c.options (s.documents.text? place.url) with
    | none => rfl
    | some document => rfl
  · rw [hrequest, hmethod] at h
    obtain ⟨params, hparams, rfl⟩ := Option.map_eq_some_iff.mp h
    simp only [handle, hrunning, hmethod, handleRunning, hrequest, answer, withParams, hparams,
      Session.rename, source?, Documents.source?_eq, Question.reply, Question.url]
    cases params.place.url.document? s.disk c.options (s.documents.text? params.place.url) with
    | none => rfl
    | some document => rfl

/-! ### Events -/

/-- An event changes nothing but the documents. -/
theorem session_handle_of_textEvent? {e : TextEvent} (s : Session) (h : m.textEvent? = some e) :
    (s.handle m).session = { s with documents := s.documentsAfter m } := by
  obtain ⟨disk, given, phase, documents⟩ := s
  rw [session_handle]
  rcases Message.ofName?_of_textEvent? h with hmethod | hmethod | hmethod <;>
    cases phase <;> simp [phaseAfter, hmethod]

theorem documentsAfter_of_textEvent? {e : TextEvent} (hrunning : s.phase = .running c)
    (h : m.textEvent? = some e) : s.documentsAfter m = e.store s.documents := by
  simp [documentsAfter, hrunning, h]

/-! ### What is said -/

end Session

end SymbolNav
