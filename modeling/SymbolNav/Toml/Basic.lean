/-!
# TOML values

Numbers and dates are told apart from other values, but what they denote is not kept. A table
remembers how it came about, because that decides what may still be added to it.
-/

namespace SymbolNav

namespace Toml

/-- How a table came about. -/
inductive Origin where
  /-- By a header of its own, or as the document itself. -/
  | header
  /-- As part of the name in a header. -/
  | implied
  /-- As part of a dotted key. -/
  | dotted
  /-- In curly brackets. -/
  | inline
deriving DecidableEq, Repr

end Toml

/-- A TOML value. -/
inductive Toml where
  | string (text : String)
  | bool (value : Bool)
  | number
  | date
  | array (items : List Toml)
  | table (origin : Toml.Origin) (entries : List (String × Toml))
  /-- An array of tables, one for each header in double brackets. -/
  | tables (all : List (List (String × Toml)))
deriving Repr, Inhabited

namespace Toml

abbrev Entries := List (String × Toml)

/-- Put a value in place of the one under a key. -/
def replace (entries : Entries) (key : String) (value : Toml) : Entries :=
  entries.map fun e => if e.1 = key then (key, value) else e

/-- Add a key that is not there yet. -/
def insert? (entries : Entries) (key : String) (value : Toml) : Option Entries :=
  match entries.lookup key with
  | none => some (entries ++ [(key, value)])
  | some _ => none

/-- Change the table that a path leads to. Tables on the way are added as needed. A dotted key does
not reach into a table with a header of its own, and nothing reaches into a table in curly brackets.
-/
def alter? (dotted : Bool) (change : Origin → Entries → Option Entries) :
    (path : List String) → Origin → Entries → Option Entries
  | [], origin, entries => change origin entries
  | key :: rest, _, entries =>
    match entries.lookup key with
    | none =>
      let origin := if dotted then .dotted else .implied
      (alter? dotted change rest origin []).map fun inner => entries ++ [(key, .table origin inner)]
    | some (.table .inline _) => none
    | some (.table origin inner) =>
      if dotted && origin = .header then none
      else (alter? dotted change rest origin inner).map fun inner =>
        replace entries key (.table origin inner)
    | some (.tables all) =>
      all.getLast?.bind fun last =>
        (alter? dotted change rest .header last).map fun last =>
          replace entries key (.tables (all.dropLast ++ [last]))
    | some _ => none

/-- Add a value under a dotted key. What the key leads to must have come about by dotted keys. -/
def insertDotted? (path : List String) (key : String) (value : Toml) (entries : Entries) :
    Option Entries :=
  alter? true
    (fun origin entries =>
      if path ≠ [] ∧ origin ≠ .dotted then none else insert? entries key value)
    path .header entries

/-- Open the table of a header. Only a table that other headers have implied may be there. -/
def openTable? (path : List String) (key : String) (entries : Entries) : Option Entries :=
  alter? false
    (fun _ entries =>
      match entries.lookup key with
      | none => some (entries ++ [(key, .table .header [])])
      | some (.table .implied inner) => some (replace entries key (.table .header inner))
      | some _ => none)
    path .header entries

/-- Open one more table of an array of tables. -/
def openArrayTable? (path : List String) (key : String) (entries : Entries) : Option Entries :=
  alter? false
    (fun _ entries =>
      match entries.lookup key with
      | none => some (entries ++ [(key, .tables [[]])])
      | some (.tables all) => some (replace entries key (.tables (all ++ [[]])))
      | some _ => none)
    path .header entries

end Toml

end SymbolNav
