/-!
The values of a TOML document.

A table remembers how it came about, because that decides who may add to it: a table written in
braces is complete, one that a header opens is complete but for tables below it, one that a header
or a dotted key only passed through may still be given its own. An array of tables, one header for
each element, grows with the document; any other array is complete.
-/

namespace Calculator.Toml

/-- How a table came about. -/
inductive Origin where
  /-- Written in braces. -/
  | inline
  /-- Opened by a header of its own. -/
  | header
  /-- Passed through by the header of a table below it. -/
  | passed
  /-- Passed through by a dotted key. -/
  | dotted
deriving DecidableEq, Repr

/-- A value. The entries of a table are in the order of the document, no two with one key. -/
inductive Value where
  | string (text : String)
  | integer (value : Int)
  | float (value : Float)
  | boolean (value : Bool)
  | datetime (text : String)
  | array (items : List Value)
  /-- An array of tables, one header for each; the last table first. -/
  | tables (items : List (List (String × Value)))
  | table (origin : Origin) (entries : List (String × Value))

/-- Keys with their values. -/
abbrev Entries := List (String × Value)

namespace Entries

/-- The value of a key. -/
def get? (entries : Entries) (key : String) : Option Value := List.lookup key entries

/-- Gives a key a value: in place of the old one, or else behind the other entries. -/
def set (entries : Entries) (key : String) (value : Value) : Entries :=
  match entries with
  | [] => [(key, value)]
  | entry :: entries =>
    if entry.1 = key then (key, value) :: entries else entry :: Entries.set entries key value

/-- The keys, in order. -/
def keys (entries : Entries) : List String := entries.map (·.1)

/-- Adds a key that is not there yet. -/
def add? (entries : Entries) (key : String) (value : Value) : Option Entries :=
  if (entries.get? key).isSome then none else some (entries.set key value)

/-- Changes the table at the end of a path. What is missing on the way is made, as tables of the
given origin; a path goes through the last table of an array of tables, and through no value written
out. A dotted key does not go through a table that has a header of its own. -/
def update? (origin : Origin) : List String → (Entries → Option Entries) → Entries → Option Entries
  | [], change, entries => change entries
  | key :: path, change, entries =>
    match entries.get? key with
    | none => do
      let sub ← update? origin path change []
      some (entries.set key (.table origin sub))
    | some (.table old sub) => do
      guard (old ≠ .inline && !(origin = .dotted && old = .header))
      let sub ← update? origin path change sub
      some (entries.set key (.table old sub))
    | some (.tables (last :: earlier)) => do
      let last ← update? origin path change last
      some (entries.set key (.tables (last :: earlier)))
    | some _ => none

/-- The origin of the table at the end of a path that starts at a table of origin `own`. -/
def originAt? (own : Origin) (entries : Entries) : List String → Option Origin
  | [] => some own
  | key :: path =>
    match entries.get? key with
    | some (.table origin sub) => originAt? origin sub path
    | some (.tables (last :: _)) => originAt? .header last path
    | _ => none

/-- Adds the value of a key, dotted or not. The table that takes it is the one at hand or, for a
dotted key, one that only dotted keys have made. -/
def assign? (entries : Entries) (path : List String) (value : Value) : Option Entries :=
  match path.getLast? with
  | none => none
  | some key => do
    let parents := path.dropLast
    let changed ← entries.update? .dotted parents (·.add? key value)
    guard (parents.isEmpty || changed.originAt? .header parents = some .dotted)
    some changed

/-- Opens the table of a header. One that headers only passed through may be opened once. -/
def openTable? (entries : Entries) (path : List String) : Option Entries :=
  match path.getLast? with
  | none => none
  | some key =>
    entries.update? .passed path.dropLast fun parent =>
      match parent.get? key with
      | none => some (parent.set key (.table .header []))
      | some (.table .passed sub) => some (parent.set key (.table .header sub))
      | some _ => none

/-- Adds a table to the array of tables of a header. -/
def appendTable? (entries : Entries) (path : List String) : Option Entries :=
  match path.getLast? with
  | none => none
  | some key =>
    entries.update? .passed path.dropLast fun parent =>
      match parent.get? key with
      | none => some (parent.set key (.tables [[]]))
      | some (.tables items) => some (parent.set key (.tables ([] :: items)))
      | some _ => none

end Entries

end Calculator.Toml
