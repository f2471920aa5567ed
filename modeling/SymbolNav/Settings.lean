import SymbolNav.FileName
import SymbolNav.FileTree
import SymbolNav.Navigation.Context
import SymbolNav.Toml.Reader

/-!
# Settings

Settings stand in a file `as3lsp.toml`. They name the snapshot of the project and say how files and
definitions are classified. A file that is missing, malformed or holds a value of the wrong type
counts as one without settings. Sections and keys that are not known are left alone.
-/

namespace SymbolNav

/-- The sections of a settings file, where they are given. -/
structure Settings where
  /-- The section for the project, and the path of its snapshot in it. -/
  project : Option (Option Path) := none
  /-- The extensions of markup files. -/
  markup : Option (List String) := none
  /-- The extensions of library archives. -/
  library : Option (List String) := none
  /-- The section for renaming, and whether files are renamed in it. -/
  rename : Option (Option Bool) := none
  /-- The section for logging, and the level in it. -/
  log : Option (Option String) := none
deriving DecidableEq, Repr

namespace Toml

def text? : Toml → Option String
  | .string text => some text
  | _ => none

def bool? : Toml → Option Bool
  | .bool value => some value
  | _ => none

def strings? : Toml → Option (List String)
  | .array items => items.mapM text?
  | _ => none

/-- The fields of a section that consists of one field: it is a table with the field as a key, or an
array with the field as its first item. A date is a table with none of the keys asked for. -/
def field? (name : String) : Toml → Option (Option Toml)
  | .table _ entries => some (entries.lookup name)
  | .array (item :: _) => some (some item)
  | .tables (entries :: _) => some (some (.table .header entries))
  | .date => some none
  | _ => none

/-- A section with one field that may be missing. -/
def optionalField? (name : String) (read : Toml → Option α) (part : Toml) : Option (Option α) :=
  match field? name part with
  | none => none
  | some none => some none
  | some (some value) => (read value).map some

/-- A section with one field that must be there. -/
def requiredField? (name : String) (read : Toml → Option α) (part : Toml) : Option α :=
  match field? name part with
  | some (some value) => read value
  | _ => none

end Toml

namespace Settings

def fileName : String := "as3lsp.toml"

/-- A section that may be missing. -/
def ofSection? (entries : Toml.Entries) (name : String) (read : Toml → Option α) :
    Option (Option α) :=
  match entries.lookup name with
  | none => some none
  | some part => (read part).map some

def ofEntries? (entries : Toml.Entries) : Option Settings := do
  let path? (t : Toml) : Option Path := t.text?.map Path.mk
  let project ← ofSection? entries "project" (Toml.optionalField? "snapshot" path?)
  let markup ← ofSection? entries "markup" (Toml.requiredField? "extensions" Toml.strings?)
  let library ← ofSection? entries "library" (Toml.requiredField? "extensions" Toml.strings?)
  let rename ← ofSection? entries "rename" (Toml.optionalField? "file_rename" Toml.bool?)
  let log ← ofSection? entries "log" (Toml.optionalField? "level" Toml.text?)
  some { project, markup, library, rename, log }

/-- The settings of a file with the given text. -/
def ofText (text : String) : Settings :=
  ((Toml.parse? text).bind ofEntries?).getD {}

/-- The settings of a file on disk. -/
def load (disk : FileTree) (path : Path) : Settings :=
  match disk.read path with
  | .ok text => ofText text
  | .error _ => {}

/-- Extensions in lower case without the dots in front, empty ones left out. -/
def normalExtensions (extensions : List String) : List String :=
  (extensions.map fun e =>
    String.ofList ((e.toList.dropWhile (· = '.')).map Char.toLower)).filter (· ≠ "")

/-- The options that the settings ask for. -/
def options (s : Settings) : Options :=
  let standard : Options := {}
  { markupExtensions := (s.markup.map normalExtensions).getD standard.markupExtensions
    libraryExtensions := (s.library.map normalExtensions).getD standard.libraryExtensions
    fileRename := s.rename.join.getD standard.fileRename }

/-- Where the snapshot of the project is, for settings from the given directory. -/
def snapshotPath? (s : Settings) (directory : Path) : Option Path :=
  s.project.join.map directory.join

def logLevel? (s : Settings) : Option String := s.log.join

/-- The directory holds a settings file. -/
def isIn (disk : FileTree) (directory : Path) : Bool :=
  disk.isFile (directory.join ⟨fileName⟩)

/-- The directory and those above it, from the inside out. A parent has fewer characters, so there
are at most as many as characters. -/
def ancestors (p : Path) : List Path :=
  let rec go : Nat → Path → List Path
    | 0, p => [p]
    | bound + 1, p =>
      p :: match p.parent? with
        | some parent => go bound parent
        | none => []
  go p.text.length p

/-- The first directory with a settings file among the start and the directories above it. -/
def directoryAbove? (disk : FileTree) (start : Path) : Option Path :=
  (ancestors start).find? (isIn disk)

/-- The directory whose settings count: the first with a settings file among the start and the
directories above it, else among those right below it. -/
def directory? (disk : FileTree) (start : Path) : Option Path :=
  (directoryAbove? disk start).or ((disk.childDirectories start).find? (isIn disk))

/-- The settings of the directory where they were found, else none at the start. -/
def foundIn (disk : FileTree) (start : Path) (directory : Option Path) : Settings × Path :=
  match directory with
  | some directory => (load disk (directory.join ⟨fileName⟩), directory)
  | none => ({}, start)

/-- The settings that count for a directory, and where they were found. -/
def discover (disk : FileTree) (start : Path) : Settings × Path :=
  foundIn disk start (directory? disk start)

/-- The settings that count for a directory by its name. One that is not UTF-8 does not exist, but
directories above it may. -/
def discoverFrom (disk : FileTree) (start : FileName) : Settings × Path :=
  match start.path? with
  | some path => discover disk path
  | none => foundIn disk start.shown (directoryAbove? disk start.readablePart)

end Settings

end SymbolNav
