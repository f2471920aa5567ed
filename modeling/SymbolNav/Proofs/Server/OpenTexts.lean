import SymbolNav.Proofs.Server.Messages

/-!
# The text that a question is answered from

The client tells of the texts of its documents by events. Opening a document sets its text, closing
it forgets the text, and a list of changes replaces the text once for each of them, so the last one
stays. The server keeps the first change of each list instead. What counts in the end is the last
event about a document, so the two texts differ exactly where that event is a list of changes whose
first and last texts differ. A document that is not open is answered for with its file.
-/

namespace SymbolNav

namespace TextEvent

/-- The text that an event leaves its document with; `apply` says what changes make of the text. -/
def ownText (apply : Option String → List String → Option String) (current : Option String) :
    TextEvent → Option String
  | .opened _ text => some text
  | .changed _ texts => apply current texts
  | .closed _ => none

/-- The open text of a document after an event. -/
def openText (apply : Option String → List String → Option String) (url : Url)
    (current : Option String) (e : TextEvent) : Option String :=
  if e.url = url then e.ownText apply current else current

/-- The open text of a document after a list of events. -/
def openTextAfter (apply : Option String → List String → Option String) (url : Url)
    (start : Option String) (events : List TextEvent) : Option String :=
  events.foldl (openText apply url) start

/-- Each change replaces the text, one after the other. -/
def inOrder (current : Option String) (texts : List String) : Option String :=
  texts.foldl (fun _ text => some text) current

/-- The first change replaces the text, and the others are left out. -/
def firstOnly (current : Option String) (texts : List String) : Option String :=
  texts.head?.or current

/-- The last event about a document. -/
def lastAbout? (url : Url) (events : List TextEvent) : Option TextEvent :=
  (events.filter (·.url = url)).getLast?

variable {url : Url} {start : Option String} {events : List TextEvent}

theorem inOrder_eq (current : Option String) {texts : List String} (h : texts ≠ []) :
    inOrder current texts = texts.getLast? := by
  induction texts generalizing current with
  | nil => exact absurd rfl h
  | cons text more ih =>
      cases more with
      | nil => rfl
      | cons next more =>
          rw [List.getLast?_cons_cons]
          exact ih (some text) (List.cons_ne_nil next more)

theorem firstOnly_eq (current : Option String) {texts : List String} (h : texts ≠ []) :
    firstOnly current texts = texts.head? := by
  cases texts with
  | nil => exact absurd rfl h
  | cons text more => rfl

/-- The documents of the server hold the text that the first changes make. -/
theorem text?_store (d : Documents) (e : TextEvent) :
    (e.store d).text? url = e.openText firstOnly url (d.text? url) := by
  by_cases h : e.url = url
  · rw [openText, if_pos h]
    subst h
    cases e with
    | opened other text => simp [store, TextEvent.url, Documents.text?_insert, ownText]
    | changed other texts =>
        cases texts with
        | nil => rfl
        | cons text more =>
            simp [store, TextEvent.url, Documents.text?_insert, ownText, firstOnly]
    | closed other => simp [store, TextEvent.url, Documents.text?_erase, ownText]
  · rw [openText, if_neg h, text?_store_of_ne h]

theorem text?_foldl_store (d : Documents) :
    (events.foldl store d).text? url = openTextAfter firstOnly url (d.text? url) events := by
  induction events generalizing d with
  | nil => rfl
  | cons e events ih =>
      rw [List.foldl_cons, ih, text?_store]
      rfl

/-- Changes that make the same of every text leave a document with the text of the last event about
it. -/
theorem openTextAfter_eq {apply : Option String → List String → Option String}
    {pick : List String → Option String}
    (happly : ∀ current {texts : List String}, texts ≠ [] → apply current texts = pick texts)
    (hchanges : ∀ u texts, .changed u texts ∈ events → texts ≠ []) :
    openTextAfter apply url start events =
      ((lastAbout? url events).map (ownText (fun _ => pick) none)).getD start := by
  induction events generalizing start with
  | nil => rfl
  | cons e events ih =>
      have hfirst : e.ownText apply start = e.ownText (fun _ => pick) none := by
        cases e with
        | opened other text => rfl
        | changed other texts => exact happly start (hchanges other texts List.mem_cons_self)
        | closed other => rfl
      change openTextAfter apply url (e.openText apply url start) events = _
      rw [ih fun u texts h => hchanges u texts (List.mem_cons_of_mem e h), lastAbout?, lastAbout?,
        List.filter_cons, openText, hfirst]
      by_cases hurl : e.url = url
      · simp only [hurl, decide_true, if_true, List.getLast?_cons]
        cases (events.filter (·.url = url)).getLast? with
        | none => rfl
        | some last => rfl
      · simp only [hurl, decide_false, Bool.false_eq_true, if_false]

theorem url_of_lastAbout? {e : TextEvent} (h : lastAbout? url events = some e) : e.url = url := by
  have hmem := List.mem_of_getLast? h
  simpa using (List.mem_filter.mp hmem).2

/-- Keeping first changes agrees with making all changes in order exactly if the last event about
the document is no list of changes with different texts at its ends. -/
theorem firstOnly_eq_inOrder_iff (hchanges : ∀ u texts, .changed u texts ∈ events → texts ≠ []) :
    openTextAfter firstOnly url start events = openTextAfter inOrder url start events ↔
      ∀ texts, lastAbout? url events = some (.changed url texts) →
        texts.head? = texts.getLast? := by
  rw [openTextAfter_eq firstOnly_eq hchanges, openTextAfter_eq inOrder_eq hchanges]
  cases hlast : lastAbout? url events with
  | none => simp
  | some e =>
      have hurl := url_of_lastAbout? hlast
      cases e with
      | opened other text => simp [ownText]
      | changed other texts =>
          cases hurl
          simp [ownText, TextEvent.url]
      | closed other => simp [ownText]

end TextEvent

namespace Session

variable {s : Session} {c : Configuration} {ms : List Message} {m : Message} {q : Question}

/-- The session after some messages. -/
def after (s : Session) (ms : List Message) : Session :=
  ms.foldl (fun s m => (s.handle m).session) s

theorem getLast?_run (s : Session) (ms : List Message) (m : Message) :
    (s.run (ms ++ [m])).getLast? = some ((s.after ms).handle m) := by
  induction ms generalizing s with
  | nil => rfl
  | cons first ms ih =>
      have hrest := ih (s.handle first).session
      change (s.handle first :: (s.handle first).session.run (ms ++ [m])).getLast? = _
      rw [List.getLast?_cons, hrest]
      rfl

/-- Events and questions leave a running server running, and its documents are those that the events
make. -/
theorem after_eq (hrunning : s.phase = .running c)
    (hms : ∀ m ∈ ms, (∃ e, m.textEvent? = some e) ∨ m.IsQuestion) :
    s.after ms =
      { s with
        documents := (ms.filterMap Message.textEvent?).foldl TextEvent.store s.documents } := by
  induction ms generalizing s with
  | nil => rfl
  | cons m ms ih =>
      have hrest := fun m hm => hms m (List.mem_cons_of_mem _ hm)
      change (s.handle m).session.after ms = _
      rcases hms m List.mem_cons_self with ⟨e, hevent⟩ | hquestion
      · have htail := ih (s := { s with documents := e.store s.documents }) hrunning hrest
        rw [session_handle_of_textEvent? s hevent, documentsAfter_of_textEvent? hrunning hevent,
          htail, List.filterMap_cons_some hevent]
        rfl
      · have hevent : m.textEvent? = none := by simp [Message.textEvent?, hquestion.1]
        rw [session_handle_of_isQuestion s hquestion, ih hrunning hrest,
          List.filterMap_cons_none hevent]

/-- The reply to a question that follows on events and other questions. -/
theorem reply_getLast?_run (hrunning : s.phase = .running c)
    (hms : ∀ m ∈ ms, (∃ e, m.textEvent? = some e) ∨ m.IsQuestion)
    (hquestion : m.question? = some q) :
    (s.run (ms ++ [m])).getLast?.map Outcome.reply = some (q.reply c
      (q.url.document? s.disk c.options (TextEvent.openTextAfter TextEvent.firstOnly q.url
        (s.documents.text? q.url) (ms.filterMap Message.textEvent?)))) := by
  have hafter := after_eq hrunning hms
  have hphase : (s.after ms).phase = .running c := by
    rw [hafter]
    exact hrunning
  rw [getLast?_run, handle_of_question? hphase hquestion, hafter, ← TextEvent.text?_foldl_store]
  rfl

/-- After any events and questions, a running server answers a question about a document from the
text that keeping first changes makes, and from the file where the document is not open. This is the
text that the client has sent last exactly if the last event about the document is no list of
changes with different texts at its ends. -/
theorem answers_from_first_changes (hrunning : s.phase = .running c)
    (hms : ∀ m ∈ ms, (∃ e, m.textEvent? = some e) ∨ m.IsQuestion)
    (hchanges : ∀ u texts, .changed u texts ∈ ms.filterMap Message.textEvent? → texts ≠ [])
    (hquestion : m.question? = some q) :
    (s.run (ms ++ [m])).getLast?.map Outcome.reply = some (q.reply c
        (q.url.document? s.disk c.options (TextEvent.openTextAfter TextEvent.firstOnly q.url
          (s.documents.text? q.url) (ms.filterMap Message.textEvent?)))) ∧
      (TextEvent.openTextAfter TextEvent.firstOnly q.url (s.documents.text? q.url)
            (ms.filterMap Message.textEvent?) =
          TextEvent.openTextAfter TextEvent.inOrder q.url (s.documents.text? q.url)
            (ms.filterMap Message.textEvent?) ↔
        ∀ texts, TextEvent.lastAbout? q.url (ms.filterMap Message.textEvent?) =
          some (.changed q.url texts) → texts.head? = texts.getLast?) :=
  ⟨reply_getLast?_run hrunning hms hquestion, TextEvent.firstOnly_eq_inOrder_iff hchanges⟩

end Session

namespace ChangeSample

/-! A class that stands on the second line of its file, and a client that first has it on the first
line. -/

def dot : Definition :=
  ⟨"Dot", "Dot", .classType none [], .pub, ⟨"/p/Dot.as"⟩, none, some ⟨7, 10⟩⟩

def snapshot : Snapshot where
  units := [⟨⟨"/p/Dot.as"⟩, .script, some "\nclass Dot {}", some ⟨0⟩, .ready [⟨0⟩], none, [], none⟩]
  nodes := [⟨.other, ⟨0, 13⟩, none, [⟨1⟩]⟩, ⟨.identifier "Dot", ⟨7, 10⟩, some ⟨0⟩, []⟩]
  definitions := [dot]
  bindings := [⟨⟨1⟩, ⟨0⟩⟩]

def configuration : Configuration where
  options := {}
  project := .ofSnapshot {} snapshot
  status := none

def session : Session where
  phase := .running configuration

def url : Url := ⟨"file".toList, some {}, .segments ["p".toList, "Dot.as".toList], none, none⟩

def address : String := "file:///p/Dot.as"

def opening (address text : String) : Message where
  method := "textDocument/didOpen"
  params := some (.record [("textDocument", .record [("uri", .text address),
    ("languageId", .text "as3"), ("version", .ofNat 1), ("text", .text text)])])
  isRequest := false

def changing (texts : List String) : Message where
  method := "textDocument/didChange"
  params := some (.record [
    ("textDocument", .record [("uri", .text address), ("version", .ofNat 2)]),
    ("contentChanges", .list (fun text => .record [("text", .text text)]) texts)])
  isRequest := false

/-- Asks for the definition of the name on the second line. -/
def asking : Message where
  method := "textDocument/definition"
  params := some (.record [("textDocument", .record [("uri", .text address)]),
    ("position", .record [("line", .ofNat 1), ("character", .ofNat 6)])])
  isRequest := true

def question : Question := .definition ⟨url, ⟨1, 6⟩⟩

/-- Where the class is declared. -/
def dotPlace : Location := ⟨"file:///p/Dot.as", ⟨⟨1, 6⟩, ⟨1, 9⟩⟩⟩

/-- The new text comes in one change, behind a question. -/
def atOnce : List Message :=
  [opening address "class Dot {}", asking, changing ["\nclass Dot {}"]]

/-- The new text comes in the second of two changes. -/
def inTwoSteps : List Message :=
  [opening address "class Dot {}", changing ["class Dot {}", "\nclass Dot {}"]]

theorem question?_asking : asking.question? = some question := rfl

theorem atOnce_heeded {m : Message} (h : m ∈ atOnce) :
    (∃ e, m.textEvent? = some e) ∨ m.IsQuestion := by
  simp only [atOnce, List.mem_cons, List.not_mem_nil, or_false] at h
  rcases h with rfl | rfl | rfl
  · exact Or.inl ⟨_, rfl⟩
  · exact Or.inr (Message.isQuestion_of_question? question?_asking)
  · exact Or.inl ⟨_, rfl⟩

theorem inTwoSteps_heeded {m : Message} (h : m ∈ inTwoSteps) :
    (∃ e, m.textEvent? = some e) ∨ m.IsQuestion := by
  simp only [inTwoSteps, List.mem_cons, List.not_mem_nil, or_false] at h
  rcases h with rfl | rfl
  · exact Or.inl ⟨_, rfl⟩
  · exact Or.inl ⟨_, rfl⟩

def name : FileName := ⟨Text.encode "/p/Dot.as".toList⟩

theorem document?_eq (text : String) :
    url.document? {} {} (some text) = some ⟨⟨"/p/Dot.as"⟩, .script, text⟩ := by
  have hname : url.fileName? = some name := rfl
  have hpath : name.path? = some ⟨"/p/Dot.as"⟩ := by decide +kernel
  have hdialect : ({} : Options).dialectOf name = .script := by decide +kernel
  simp [Url.document?, hname, hpath, hdialect]

/-- The class is found in the new text. -/
theorem reply_newText :
    question.reply configuration (url.document? {} {} (some "\nclass Dot {}")) =
      .result (DefinitionAnswer.toJson (.locations [dotPlace])) := by
  rw [document?_eq]
  rfl

/-- The old text has no second line. -/
theorem reply_oldText :
    question.reply configuration (url.document? {} {} (some "class Dot {}")) =
      .result (DefinitionAnswer.toJson (.locations [])) := by
  rw [document?_eq]
  rfl

end ChangeSample

namespace Session

open ChangeSample

/-- A change by itself is heeded. -/
theorem answers_from_first_changes_of_sample :
    session.phase = .running configuration ∧ asking.question? = some question ∧
      atOnce.filterMap Message.textEvent? =
        [.opened url "class Dot {}", .changed url ["\nclass Dot {}"]] ∧
      (session.run (atOnce ++ [asking])).getLast?.map Outcome.reply =
        some (.result (DefinitionAnswer.toJson (.locations [dotPlace]))) := by
  have hevents : atOnce.filterMap Message.textEvent? =
      [.opened url "class Dot {}", .changed url ["\nclass Dot {}"]] := rfl
  have hchanges : ∀ u texts, .changed u texts ∈ atOnce.filterMap Message.textEvent? →
      texts ≠ [] := by
    rw [hevents]
    simp
  have hphase : session.phase = .running configuration := rfl
  obtain ⟨hreply, -⟩ :=
    answers_from_first_changes hphase (fun _ => atOnce_heeded) hchanges question?_asking
  exact ⟨hphase, rfl, hevents, hreply.trans (congrArg some reply_newText)⟩

/-- Of two changes the second one is lost. The client has sent a text in which the class stands at
the place of the question, but the answer comes from the text of the first change, where there is
nothing. -/
theorem answers_from_outdated_text :
    session.phase = .running configuration ∧ asking.question? = some question ∧
      inTwoSteps.filterMap Message.textEvent? =
        [.opened url "class Dot {}", .changed url ["class Dot {}", "\nclass Dot {}"]] ∧
      TextEvent.openTextAfter TextEvent.inOrder url (session.documents.text? url)
        (inTwoSteps.filterMap Message.textEvent?) = some "\nclass Dot {}" ∧
      question.reply configuration
          (url.document? session.disk configuration.options (some "\nclass Dot {}")) =
        .result (DefinitionAnswer.toJson (.locations [dotPlace])) ∧
      (session.run (inTwoSteps ++ [asking])).getLast?.map Outcome.reply =
        some (.result (DefinitionAnswer.toJson (.locations []))) := by
  have hphase : session.phase = .running configuration := rfl
  have hreply := reply_getLast?_run hphase (fun _ => inTwoSteps_heeded) question?_asking
  exact ⟨hphase, rfl, rfl, rfl, reply_newText, hreply.trans (congrArg some reply_oldText)⟩

end Session

end SymbolNav
