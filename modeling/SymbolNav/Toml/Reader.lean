import SymbolNav.Toml.Scalar

/-!
# Reading TOML

A document is a sequence of lines: headers, keys with values, comments and empty lines. Values nest
in arrays and in tables in curly brackets, less than `nestingLimit` deep, and a key has fewer than
`nestingLimit` parts.
-/

namespace SymbolNav.Toml

def nestingLimit : Nat := 80

def isBareKeyChar (c : Char) : Bool :=
  c.isAlphanum || c = '_' || c = '-'

/-- One part of a key. -/
def simpleKey? (text : List Char) : Option (String × List Char) :=
  match text with
  | q :: rest =>
    if q = '"' ∨ q = '\'' then
      (lineString? q (rest.length + 1) rest).map fun (s, rest) => (String.ofList s, rest)
    else
      match text.takeWhile isBareKeyChar with
      | [] => none
      | key => some (String.ofList key, text.dropWhile isBareKeyChar)
  | [] => none

/-- At most `bound` parts of a key with dots between them. -/
def keyParts? : (bound : Nat) → List Char → Option (List String × List Char)
  | 0, _ => none
  | bound + 1, text => do
    let (part, rest) ← simpleKey? (skipSpace text)
    match skipSpace rest with
    | '.' :: rest =>
      let (parts, rest) ← keyParts? bound rest
      some (part :: parts, rest)
    | rest => some ([part], rest)

/-- A key: one or more parts with dots between them. -/
def key? (text : List Char) : Option (List String × List Char) :=
  keyParts? (nestingLimit - 1) text

/-- Leave out blanks, line ends and comments. -/
def skipFill : Nat → List Char → Option (List Char)
  | 0, _ => none
  | bound + 1, text =>
    let rest := skipComment (skipSpace text)
    match newline? rest with
    | some rest => skipFill bound rest
    | none => some rest

/-- The parts in front of the last one, and the last one. -/
def splitKey (parts : List String) : List String × String :=
  (parts.dropLast, parts.getLast?.getD "")

mutual

/-- A value, nested at most `depth` deep. -/
def value? : (bound depth : Nat) → List Char → Option (Toml × List Char)
  | 0, _, _ => none
  | _, _, [] => none
  | bound + 1, depth, c :: rest =>
    if c = '"' ∨ c = '\'' then (quotedText? (c :: rest)).map fun (s, rest) => (.string s, rest)
    else if c = '[' then
      match depth with
      | 0 => none
      | depth + 1 => (items? bound depth rest).map fun (items, rest) => (.array items, rest)
    else if c = '\x7b' then
      match depth with
      | 0 => none
      | depth + 1 =>
        match skipSpace rest with
        | '\x7d' :: rest => some (.table .inline [], rest)
        | rest =>
          (pairs? bound depth [] rest).map fun (entries, rest) => (.table .inline entries, rest)
    else if "true".toList.isPrefixOf (c :: rest) then some (.bool true, rest.drop 3)
    else if "false".toList.isPrefixOf (c :: rest) then some (.bool false, rest.drop 4)
    else numeric? (c :: rest)

/-- Items up to the closing bracket. -/
def items? : (bound depth : Nat) → List Char → Option (List Toml × List Char)
  | 0, _, _ => none
  | bound + 1, depth, text => do
    match ← skipFill (text.length + 1) text with
    | ']' :: rest => some ([], rest)
    | rest =>
      let (item, rest) ← value? bound depth rest
      match ← skipFill (rest.length + 1) rest with
      | ',' :: rest =>
        let (items, rest) ← items? bound depth rest
        some (item :: items, rest)
      | ']' :: rest => some ([item], rest)
      | _ => none

/-- Keys with values up to the closing bracket, added to the entries in front of them. -/
def pairs? : (bound depth : Nat) → Entries → List Char → Option (Entries × List Char)
  | 0, _, _, _ => none
  | bound + 1, depth, entries, text => do
    let (parts, rest) ← key? text
    match rest with
    | '=' :: rest =>
      let (value, rest) ← value? bound depth (skipSpace rest)
      let (path, key) := splitKey parts
      let entries ← insertDotted? path key value entries
      match skipSpace rest with
      | ',' :: rest => pairs? bound depth entries rest
      | '\x7d' :: rest => some (entries, rest)
      | _ => none
    | _ => none

end

/-- The rest of a line behind its contents. -/
def lineEnd? (text : List Char) : Option (List Char) :=
  match skipComment (skipSpace text) with
  | [] => some []
  | rest => newline? rest

/-- A document that has been read up to some place: its entries, and the header that is in force. -/
structure Reading where
  entries : Entries := []
  header : List String := []

/-- A header behind its opening brackets. -/
def header? (closing : List Char) (text : List Char) : Option (List String × List Char) := do
  let (parts, rest) ← key? text
  if closing.isPrefixOf rest then some (parts, ← lineEnd? (rest.drop closing.length)) else none

/-- A key with its value, which goes into the table of the header in force. -/
def keyValue? (r : Reading) (text : List Char) : Option (Reading × List Char) := do
  let (parts, rest) ← key? text
  match rest with
  | '=' :: rest =>
    let rest := skipSpace rest
    let (value, rest) ← value? (2 * rest.length + 2) (nestingLimit - 1) rest
    let (path, key) := splitKey parts
    let entries ← alter? false (fun _ entries => insertDotted? path key value entries)
      r.header .header r.entries
    some ({ r with entries }, ← lineEnd? rest)
  | _ => none

/-- One line. -/
def line? (r : Reading) (text : List Char) : Option (Reading × List Char) :=
  match skipSpace text with
  | '[' :: '[' :: rest => do
    let (parts, rest) ← header? [']', ']'] rest
    let (path, key) := splitKey parts
    some (⟨← openArrayTable? path key r.entries, parts⟩, rest)
  | '[' :: rest => do
    let (parts, rest) ← header? [']'] rest
    let (path, key) := splitKey parts
    some (⟨← openTable? path key r.entries, parts⟩, rest)
  | rest =>
    match lineEnd? rest with
    | some rest => some (r, rest)
    | none => keyValue? r rest

/-- All lines of a text. -/
def lines? : (bound : Nat) → Reading → List Char → Option Reading
  | _, r, [] => some r
  | 0, _, _ => none
  | bound + 1, r, text => do
    let (r, rest) ← line? r text
    lines? bound r rest

/-- The entries of a document. A byte order mark in front of it is left out. -/
def parse? (text : String) : Option Entries :=
  let cs := text.toList
  let cs := if cs.head? = some (Char.ofNat 0xFEFF) then cs.drop 1 else cs
  (lines? (cs.length + 1) {} cs).map (·.entries)

end SymbolNav.Toml
