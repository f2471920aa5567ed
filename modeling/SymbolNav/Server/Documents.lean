import SymbolNav.Navigation.Context
import SymbolNav.Url.File

/-!
# Open documents

The texts of the documents that the editor has open, by address. A document that is open is answered
for with the editor's text, any other one with the file on disk.
-/

namespace SymbolNav

/-- A file with the text that counts. -/
structure FileText where
  name : FileName
  dialect : Dialect
  text : String
deriving DecidableEq, Repr

/-- The dialect of a file. An extension that is not UTF-8 is none of those asked for. -/
def Options.dialectOf (o : Options) (name : FileName) : Dialect :=
  if name.hasReadableExtension then o.dialect name.shown else .script

structure Documents where
  texts : List (Url × String) := []
deriving DecidableEq, Repr

namespace Documents

/-- The text of an open document. -/
def text? (d : Documents) (url : Url) : Option String :=
  (d.texts.find? (·.1 = url)).map (·.2)

/-- The document is no longer open. -/
def erase (d : Documents) (url : Url) : Documents :=
  ⟨d.texts.filter (·.1 ≠ url)⟩

/-- The document is open with the text. -/
def insert (d : Documents) (url : Url) (text : String) : Documents :=
  ⟨(url, text) :: (d.erase url).texts⟩

theorem text?_insert (d : Documents) (url other : Url) (text : String) :
    (d.insert url text).text? other = if other = url then some text else d.text? other := by
  simp only [insert, text?, erase, List.find?_cons, List.find?_filter]
  by_cases h : other = url
  · simp [h]
  · have hne : ¬url = other := fun e => h e.symm
    simp only [hne, decide_false, h, if_false]
    congr 2
    funext e
    by_cases he : e.1 = other <;> simp [he, h]

theorem text?_erase (d : Documents) (url other : Url) :
    (d.erase url).text? other = if other = url then none else d.text? other := by
  simp only [text?, erase, List.find?_filter]
  by_cases h : other = url
  · subst h
    simp
  · simp only [h, if_false]
    congr 2
    funext e
    by_cases he : e.1 = other <;> simp [he, h]

/-- The file that an address names, with the editor's text if it is open and else its own; nothing
if the address names no file, or one that is neither open nor on disk. -/
def file? (d : Documents) (disk : FileTree) (options : Options) (url : Url) : Option FileText := do
  let name ← url.fileName?
  let text ← (d.text? url).or (name.path?.bind fun path => (disk.read path).toOption)
  some ⟨name, options.dialectOf name, text⟩

/-- What a request about the address is answered for: a file whose name is a path. -/
def source? (d : Documents) (disk : FileTree) (options : Options) (url : Url) :
    Option SourceDocument := do
  let file ← d.file? disk options url
  let path ← file.name.path?
  some ⟨path, file.dialect, file.text⟩

end Documents

end SymbolNav
