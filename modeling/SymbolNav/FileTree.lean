import SymbolNav.Path

/-!
# Files on disk

The disk as the program sees it: files with their texts and directories, each under its absolute
path. Double dots are resolved while a path is walked, so they need the directory in front of them
to exist. Paths that are not absolute name nothing.
-/

namespace SymbolNav

/-- Files and directories by the names that lead to them from the root. -/
structure FileTree where
  files : List (List (List Char) × String) := []
  directories : List (List (List Char)) := []
deriving Repr

/-- Why a file cannot be read. -/
inductive ReadError where
  | notFound
  | notDirectory
  | isDirectory
  | nameTooLong
  | nullCharacter
deriving DecidableEq, Repr

namespace ReadError

def message : ReadError → String
  | .notFound => "No such file or directory (os error 2)"
  | .notDirectory => "Not a directory (os error 20)"
  | .isDirectory => "Is a directory (os error 21)"
  | .nameTooLong => "File name too long (os error 36)"
  | .nullCharacter => "file name contained an unexpected NUL byte"

end ReadError

namespace FileTree

/-- The names that lead to an absolute path, dots left out. -/
def namesOf (p : Path) : List (List Char) :=
  p.components.filterMap fun
    | .name text => some text
    | _ => none

/-- A tree of the given files and directories; the directories that lead to them are added. -/
def ofPaths (files : List (Path × String)) (directories : List Path) : FileTree :=
  ⟨files.map fun f => (namesOf f.1, f.2), directories.map namesOf⟩

/-- Something stands below the names, or they are given as a directory. -/
def isDirectory (t : FileTree) (names : List (List Char)) : Bool :=
  names.isEmpty || t.directories.any (names.isPrefixOf ·) ||
    t.files.any fun f => names.isPrefixOf f.1 && f.1 ≠ names

def file? (t : FileTree) (names : List (List Char)) : Option String :=
  t.files.lookup names

/-- Bytes of a name in a directory. -/
def nameLimit : Nat := 255

/-- Bytes of a path, with one for its end. -/
def pathLimit : Nat := 4096

/-- One step of a walk from a directory. -/
def step (t : FileTree) (names : List (List Char)) (segment : List Char) :
    Except ReadError (List (List Char)) :=
  if !t.isDirectory names then .error .notDirectory
  else if Path.isTrivial segment then .ok names
  else if segment = ['.', '.'] then .ok names.dropLast
  else if nameLimit < (String.ofList segment).utf8ByteSize then .error .nameTooLong
  else
    let next := names ++ [segment]
    if t.isDirectory next || (t.file? next).isSome then .ok next else .error .notFound

/-- The names that a path leads to. -/
def resolve (t : FileTree) (p : Path) : Except ReadError (List (List Char)) :=
  match p.text.toList with
  | '/' :: body =>
    if body.contains '\x00' then .error .nullCharacter
    else if pathLimit ≤ p.text.utf8ByteSize then .error .nameTooLong
    else (Path.segments body).foldlM t.step []
  | _ => .error .notFound

/-- The text of a file. -/
def read (t : FileTree) (p : Path) : Except ReadError String := do
  let names ← t.resolve p
  match t.file? names with
  | some text => .ok text
  | none => .error .isDirectory

def isFile (t : FileTree) (p : Path) : Bool :=
  match t.read p with
  | .ok _ => true
  | .error _ => false

/-- The directories right below a directory. -/
def childDirectories (t : FileTree) (p : Path) : List Path :=
  match t.resolve p with
  | .error _ => []
  | .ok names =>
    let below (all : List (List Char)) : Option (List Char) :=
      if names.isPrefixOf all then (all.drop names.length).head? else none
    let candidates := (t.directories ++ t.files.map (·.1)).filterMap below
    candidates.eraseDups.filter (fun name => t.isDirectory (names ++ [name]))
      |>.map fun name => p.join ⟨String.ofList name⟩

end FileTree

end SymbolNav
