/-!
# Paths

A path keeps the text it was given. Two paths name the same place when they have the same
components: repeated slashes, a slash at the end and single dots after the start do not count, while
double dots are kept, since what they lead to depends on the disk. The operations that shorten or
extend a path work on its text and change nothing else about it.
-/

namespace SymbolNav

/-- A path as written, with `/` between its components. -/
structure Path where
  text : String
deriving DecidableEq, Repr, Inhabited

namespace Path

/-- One step of a path. -/
inductive Component where
  /-- The slash at the start of an absolute path. -/
  | root
  /-- A single dot at the start of a relative path. -/
  | here
  | up
  | name (text : List Char)
deriving DecidableEq, Repr

/-- The pieces between the slashes of a text, at least one. -/
def segments (text : List Char) : List (List Char) :=
  text.splitOn '/'

/-- Join pieces with slashes. -/
def joinSegments (pieces : List (List Char)) : List Char :=
  ['/'].intercalate pieces

/-- A piece that stands for no component: nothing between two slashes, or a single dot. -/
def isTrivial (segment : List Char) : Bool :=
  segment = [] || segment = ['.']

def componentOf (segment : List Char) : Component :=
  if segment = ['.', '.'] then .up else .name segment

def isAbsolute (p : Path) : Bool :=
  p.text.toList.head? = some '/'

/-- The components that stand for a path's text. -/
def components (p : Path) : List Component :=
  match p.text.toList with
  | '/' :: body => .root :: ((segments body).filter (!isTrivial ·)).map componentOf
  | body =>
    match segments body with
    | ['.'] :: rest => .here :: (rest.filter (!isTrivial ·)).map componentOf
    | all => (all.filter (!isTrivial ·)).map componentOf

/-- The two paths have the same components. -/
def same (p q : Path) : Bool :=
  p.components = q.components

/-- Everything up to the last piece that stands for a component. -/
def dropTrivialEnd (pieces : List (List Char)) : List (List Char) :=
  (pieces.reverse.dropWhile isTrivial).reverse

/-- The path without its last component; `none` for the root and for the empty path. -/
def parent? (p : Path) : Option Path :=
  let shortened (pieces : List (List Char)) : Option (List (List Char)) :=
    match dropTrivialEnd pieces with
    | [] => none
    | kept => some (dropTrivialEnd kept.dropLast)
  match p.text.toList with
  | '/' :: body =>
    (shortened (segments body)).map fun kept => ⟨String.ofList ('/' :: joinSegments kept)⟩
  | body =>
    match segments body with
    | ['.'] :: rest =>
      match shortened rest with
      | none => some ⟨""⟩
      | some kept => some ⟨String.ofList (joinSegments (['.'] :: kept))⟩
    | all => (shortened all).map fun kept => ⟨String.ofList (joinSegments kept)⟩

/-- The last component, unless the path ends in double dots or has no named component at its
end. -/
def fileName? (p : Path) : Option (List Char) :=
  match p.components.getLast? with
  | some (.name text) => some text
  | _ => none

/-- The text behind the last dot of the file name, unless that dot is its first character. -/
def extension? (p : Path) : Option (List Char) :=
  p.fileName?.bind fun name =>
    let reversed := name.reverse
    match reversed.dropWhile (· ≠ '.') with
    | [] => none
    | [_] => none
    | _ => some (reversed.takeWhile (· ≠ '.')).reverse

/-- Go on from `p` to `q`; an absolute `q` replaces `p`. -/
def join (p q : Path) : Path :=
  if q.isAbsolute then q
  else if p.text.toList.getLast?.all (· = '/') then ⟨p.text ++ q.text⟩
  else ⟨p.text ++ "/" ++ q.text⟩

/-- Put another name in place of the file name, or behind the path when it ends in none. -/
def withFileName (p : Path) (name : String) : Path :=
  let base := if p.fileName?.isSome then p.parent?.getD p else p
  base.join ⟨name⟩

/-- Whether the path has one of the extensions, upper and lower case of ASCII letters alike. -/
def hasExtension (p : Path) (extensions : List String) : Bool :=
  p.extension?.any fun own =>
    extensions.any fun e => e.toList.map Char.toLower = own.map Char.toLower

end Path

end SymbolNav
