import SymbolNav.Url.Host

/-!
# Addresses

Editors name documents by absolute addresses. Reading an address brings it into a normal form, so
that two spellings of one address become equal values: the scheme and the host are in lower case,
dots in a path are resolved, and characters that may not stand in an address are percent-encoded.
The schemes of the web and `file` are special: a backslash separates their paths like a slash.

Tabs and line ends in an address are ignored, blanks and control characters at its ends too.
-/

namespace SymbolNav

namespace Url

/-- The part of an address between two slashes and the path. -/
structure Authority where
  user : List Char := []
  host : Option Host := none
  /-- The number behind the host that names a service there. -/
  service : Option Nat := none
deriving DecidableEq, Repr

/-- What follows the authority. -/
inductive Route where
  /-- A text without structure. -/
  | plain (text : List Char)
  | segments (all : List (List Char))
deriving DecidableEq, Repr

end Url

/-- An absolute address in normal form. -/
structure Url where
  scheme : List Char
  authority : Option Url.Authority
  route : Url.Route
  query : Option (List Char)
  fragment : Option (List Char)
deriving DecidableEq, Repr

namespace Url

/-! ## Texts -/

/-- Tabs and line ends. -/
def isIgnored (c : Char) : Bool := c = '\t' || c = '\n' || c = '\r'

/-- The characters of a text that count. -/
def significant (text : List Char) : List Char := text.filter (!isIgnored ·)

/-- Leave out blanks and control characters at both ends. -/
def trim (text : List Char) : List Char :=
  let outer (c : Char) : Bool := c.toNat ≤ 0x20
  ((text.dropWhile outer).reverse.dropWhile outer).reverse

/-- Part the text in front of the first character with the given property from the rest. -/
def cut (p : Char → Bool) (text : List Char) : List Char × List Char :=
  (text.takeWhile (!p ·), text.dropWhile (!p ·))

/-- The text in front of the last character with the given property, and all behind it. -/
def cutLast (p : Char → Bool) (text : List Char) : Option (List Char × List Char) :=
  match text.reverse.dropWhile (!p ·) with
  | [] => none
  | _ :: front => some (front.reverse, (text.reverse.takeWhile (!p ·)).reverse)

def isSlash (special : Bool) (c : Char) : Bool :=
  c = '/' || (special && c = '\\')

/-- The text behind a slash at its start. -/
def dropSlash? (special : Bool) (text : List Char) : Option (List Char) :=
  match text.dropWhile isIgnored with
  | c :: rest => if isSlash special c then some rest else none
  | [] => none

/-! ## Paths -/

/-- A dot, plain or percent-encoded, in front of the rest. -/
def dropDot? : List Char → Option (List Char)
  | '.' :: rest => some rest
  | '%' :: '2' :: 'e' :: rest => some rest
  | '%' :: '2' :: 'E' :: rest => some rest
  | _ => none

def isSingleDot (segment : List Char) : Bool :=
  dropDot? segment = some []

def isDoubleDot (segment : List Char) : Bool :=
  (dropDot? segment).bind dropDot? = some []

/-- A letter and a colon or bar, which names a drive. -/
def isDrive : List Char → Bool
  | [letter, mark] => letter.isAlpha && (mark = ':' || mark = '|')
  | _ => false

/-- A drive, which a backslash may follow. -/
def startsWithDrive (segment : List Char) : Bool :=
  isDrive (segment.take 2) && (segment.drop 2).head?.all (· = '\\')

/-- Take off the last segment, unless it names a drive. -/
def shorten (done : List (List Char)) : List (List Char) :=
  if done.getLast?.any startsWithDrive then done else done.dropLast

/-- A drive that something ignored parts from what follows in its segment. -/
def splitDrive? (segment : List Char) : Option (List Char × List Char) :=
  let (front, back) := cut (· = ':') segment
  match significant front, back with
  | [letter], mark :: c :: rest =>
    if letter.isAlpha && isIgnored c && !(significant rest).isEmpty then
      some ([letter, mark], significant rest)
    else none
  | _, _ => none

/-- A path that has been read up to some place. -/
structure PathReading where
  done : List (List Char) := []
  /-- The path starts with a drive. -/
  onDrive : Bool := false

/-- Read one more segment, resolving dots. A drive at the start of a `file` path gets its colon, and
what follows it in its segment is a segment of its own. -/
def PathReading.push (file last : Bool) (r : PathReading) (raw : List Char) : PathReading :=
  let segment := percentEncode pathSet (significant raw)
  let close (done : List (List Char)) := if last then done ++ [[]] else done
  if isDoubleDot segment then { r with done := close (shorten r.done) }
  else if isSingleDot segment then { r with done := close r.done }
  else if file && r.done.isEmpty then
    match splitDrive? raw with
    | some (drive, rest) => { r with done := [drive, percentEncode pathSet rest] }
    | none =>
      if isDrive segment then ⟨[segment.take 1 ++ [':']], true⟩ else { r with done := [segment] }
  else { r with done := r.done ++ [segment] }

def readSegments (file : Bool) : PathReading → List (List Char) → PathReading
  | r, [] => r
  | r, raw :: rest => readSegments file (r.push file rest.isEmpty raw) rest

/-- Read what follows the first slash of a path. -/
def readPath (file special : Bool) (text : List Char) : PathReading :=
  readSegments file {} (text.splitOnP (isSlash special))

/-- The segments of a path that starts with no empty one. -/
def dropEmpty (segments : List (List Char)) : List (List Char) :=
  match segments.dropWhile List.isEmpty with
  | [] => [[]]
  | kept => kept

/-! ## Schemes -/

/-- The special schemes with the numbers of their usual services; `file` has none. -/
def specialService? (scheme : List Char) : Option (Option Nat) :=
  [("http", some 80), ("https", some 443), ("ws", some 80), ("wss", some 443), ("ftp", some 21),
    ("file", none)].findSome? fun (name, usual) =>
      if name.toList = scheme then some usual else none

/-- The scheme in lower case and the text behind its colon. -/
def scheme? (text : List Char) : Option (List Char × List Char) :=
  let (name, rest) := cut (· = ':') text
  let name := significant name
  if rest.isEmpty || !name.head?.any Char.isAlpha ||
      !name.all (fun c => c.isAlphanum || c = '+' || c = '-' || c = '.') then none
  else some (name.map Char.toLower, rest.drop 1)

/-- The parts of an address behind its path. -/
structure Tail where
  query : Option (List Char)
  fragment : Option (List Char)

def Tail.isEmpty (t : Tail) : Bool := t.query.isNone && t.fragment.isNone

/-- The path up to the query, the query up to the fragment, and the fragment. -/
def splitTail (special : Bool) (text : List Char) : List Char × Tail :=
  let (front, fragment) := cut (· = '#') text
  let (path, query) := cut (· = '?') front
  let encode (set : List Char) (part : List Char) := percentEncode set (significant part)
  (path, ⟨query.tail?.map (encode (if special then specialQuerySet else querySet)),
    fragment.tail?.map (encode fragmentSet)⟩)

/-! ## Authorities -/

/-- The user in front of the last at sign, with the password behind the first colon, and the place
behind it. -/
def splitUser (text : List Char) : List Char × List Char :=
  match cutLast (· = '@') text with
  | none => ([], text)
  | some (user, place) =>
    let (name, password) := cut (· = ':') user
    let password := percentEncode userSet (password.drop 1)
    (percentEncode userSet name ++ if password.isEmpty then [] else ':' :: password, place)

/-- The host up to a colon outside square brackets, and the rest from the colon on. -/
def splitHost : (inside : Bool) → List Char → List Char × List Char
  | _, [] => ([], [])
  | inside, c :: rest =>
    if c = ':' && !inside then ([], c :: rest)
    else
      let (host, rest) := splitHost (c = '[' || (inside && c ≠ ']')) rest
      (c :: host, rest)

/-- The number of a service behind its colon, and the text behind it: nothing, or a text that starts
with a backslash. The usual number is left out. -/
def service? (usual : Option Nat) (text : List Char) : Option (Option Nat × List Char) :=
  let (digits, rest) := cut (!Char.isDigit ·) text
  let n := Text.numberOf 10 digits
  if 65536 ≤ n ∨ !rest.head?.all (· = '\\') then none
  else some (if digits.isEmpty ∨ usual = some n then none else some n, rest)

/-- The authority of a scheme other than `file`, and what belongs to the path behind it. -/
def authority? (special : Option (Option Nat)) (text : List Char) :
    Option (Authority × List Char) := do
  let (user, place) := splitUser text
  let (host, service) := splitHost false place
  let host ← match special with
    | some _ => (Host.special? host).map some
    | none => if host.isEmpty then some none else (Host.plain? host).map some
  if host.isNone && (!user.isEmpty || !service.isEmpty) then none
  let (service, rest) ← match service with
    | [] => some (none, [])
    | _ :: digits => service? (special.getD none) digits
  some (⟨user, host, service⟩, rest)

/-! ## Addresses -/

/-- Read what follows `file:`. Behind two slashes stands a host, unless a drive does; the host of
the machine itself is left out, and so is any host in front of a drive. -/
def ofFile? (text : List Char) : Option Url := do
  let (front, tail) := splitTail true text
  let build (host : Option Host) (path : List Char) : Url :=
    let read := readPath true true path
    { scheme := "file".toList
      authority := some { host := if read.onDrive then none else host }
      route := .segments (dropEmpty read.done)
      query := tail.query
      fragment := tail.fragment }
  match dropSlash? true front with
  | none => some (build none front)
  | some behindOne =>
    match dropSlash? true behindOne with
    | none => some (build none behindOne)
    | some behindTwo =>
      let (host, path) := cut (isSlash true) behindTwo
      let host := significant host
      if host.isEmpty then some (build none path)
      else if isDrive host then some (build none behindTwo)
      else
        let host ← Host.special? host
        if host.isLocal then some (build none path) else some (build (some host) (path.drop 1))

/-- Read what follows the colon of another scheme. -/
def ofOther? (scheme text : List Char) : Option Url := do
  let special := specialService? scheme
  let (front, tail) := splitTail special.isSome text
  let build (authority : Option Authority) (route : Route) : Url :=
    { scheme, authority, route, query := tail.query, fragment := tail.fragment }
  let segments (path : List Char) : Route := .segments (readPath false special.isSome path).done
  let withAuthority (front : List Char) : Option Url := do
    let (place, path) := cut (isSlash special.isSome) front
    let place := significant place
    if place = ['@'] ∧ !(path.isEmpty && tail.isEmpty) then none
    let (authority, more) ← authority? special place
    if special.isSome then some (build (some authority) (segments (path.drop 1)))
    else if !more.isEmpty then some (build (some authority) (segments (more ++ path)))
    else if path.isEmpty then some (build (some authority) (.segments []))
    else some (build (some authority) (segments (path.drop 1)))
  if special.isSome then withAuthority (front.dropWhile fun c => isSlash true c || isIgnored c)
  else match dropSlash? false front with
    | none => some (build none (.plain (percentEncode [] (significant front))))
    | some behindOne =>
      match dropSlash? false behindOne with
      | none => some (build none (segments behindOne))
      | some behindTwo => withAuthority behindTwo

/-- Read an absolute address; `none` when the text is not one. -/
def parse? (text : String) : Option Url := do
  let (scheme, rest) ← scheme? (trim text.toList)
  if scheme = "file".toList then ofFile? rest else ofOther? scheme rest

end Url

end SymbolNav
