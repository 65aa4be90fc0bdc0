import Calculator.Files
import Calculator.Output
import Calculator.Toml.Document

/-!
The configuration file.

A configuration is a TOML document with one table, `output`, whose keys `precision` and `echo` are
the settings of the output. No other key is allowed, and every key may be left out. In place of the
table an array is allowed whose first two items are the settings by position.

Without a path the nearest `reckon.toml` counts: the one in the starting directory or else in the
closest directory above it that has one as a regular file. The search never looks into a file, so
one that cannot be read or is invalid is an error and is not passed over.
-/

namespace Calculator

/-- What can be configured. -/
structure Config where
  output : OutputSettings := {}
deriving DecidableEq, Repr

/-- Why there is no configuration. -/
inductive ConfigFault where
  | unreadable (path : String) (fault : ReadFault)
  | invalid (path : String)
deriving DecidableEq, Repr

open Toml (Value Entries)

/-- The value of `precision`: a number of places. -/
def precision? : Value → Option Nat
  | .integer n => if 0 ≤ n then some n.toNat else none
  | _ => none

/-- The value of `echo`. -/
def echo? : Value → Option Bool
  | .boolean b => some b
  | _ => none

/-- Decodes a value that may be left out. -/
def decodeOr {α : Type} (default : α) (decode : Value → Option α) : Option Value → Option α
  | none => some default
  | some value => decode value

/-- The settings in a table or, by position, in an array; further items of an array are ignored. -/
def OutputSettings.ofValue? : Value → Option OutputSettings
  | .table _ entries => do
    guard (Entries.keys entries |>.all fun key => key = "precision" || key = "echo")
    let precision ← decodeOr none (some <$> precision? ·) (Entries.get? entries "precision")
    let echo ← decodeOr false echo? (Entries.get? entries "echo")
    some { precision, echo }
  | .array items => do
    let precision ← decodeOr none (some <$> precision? ·) items[0]?
    let echo ← decodeOr false echo? items[1]?
    some { precision, echo }
  | _ => none

namespace Config

/-- The configuration in the entries of a document. -/
def ofEntries? (entries : Entries) : Option Config := do
  guard (entries.keys.all (· = "output"))
  let output ← decodeOr {} OutputSettings.ofValue? (entries.get? "output")
  some { output }

/-- The configuration that a text writes out. -/
def parse? (text : String) : Option Config := do
  ofEntries? (← Toml.read? text)

/-- The name of a configuration file. -/
def fileName : String := "reckon.toml"

/-- The paths where a search from `start` looks, nearest first. A start that is no directory gives
way to the directory it is in. -/
def candidates (files : Files) (start : String) : List String :=
  let above := Path.parents start
  let directories :=
    if files.isDirectory start then start :: above
    else
      match above with
      | [] => [start]
      | above => above
  directories.map (Path.join · fileName)

/-- The configuration file for `start`, if there is one. -/
def find? (files : Files) (start : String) : Option String :=
  (candidates files start).find? files.isFile

/-- All paths where a search from `start` may look. -/
def searchPaths (start : String) : List String :=
  (start :: Path.parents start).map (Path.join · fileName)

theorem candidates_subset (files : Files) (start : String) :
    candidates files start ⊆ searchPaths start := by
  refine List.map_subset _ ?_
  split
  · exact List.Subset.refl _
  · split
    · simp
    · exact List.subset_cons_self _ _

theorem mem_searchPaths_of_find? {files : Files} {start path : String}
    (h : find? files start = some path) : path ∈ searchPaths start :=
  candidates_subset files start (List.mem_of_find?_eq_some h)

theorem find?_congr {files files' : Files} {start : String} (hstart : files.AgreeAt files' start)
    (hsearch : ∀ path ∈ searchPaths start, files.AgreeAt files' path) :
    find? files start = find? files' start := by
  have hcandidates : candidates files' start = candidates files start := by
    simp only [candidates, hstart.1]
  have hfiles : ∀ path ∈ candidates files start, files.isFile path = files'.isFile path :=
    fun path hp => (hsearch path (candidates_subset files start hp)).2.1
  rw [find?, find?, hcandidates]
  generalize candidates files start = paths at hfiles
  induction paths with
  | nil => rfl
  | cons path paths ih =>
    simp only [List.find?_cons, hfiles path (by simp), ih fun p hp => hfiles p (by simp [hp])]

/-- The configuration in the file at a path. -/
def read (files : Files) (path : String) : Except ConfigFault Config :=
  match files.readText path with
  | .error fault => .error (.unreadable path fault)
  | .ok text =>
    match parse? text with
    | some config => .ok config
    | none => .error (.invalid path)

/-- The configuration in the file that is named or, if none is, in the one found for `start`; the
default where there is none. -/
def load (files : Files) (named : Option String) (start : String) : Except ConfigFault Config :=
  match named.orElse fun _ => find? files start with
  | some path => read files path
  | none => .ok {}

theorem read_congr {files files' : Files} {path : String} (h : files.AgreeAt files' path) :
    read files path = read files' path := by
  simp only [read, h.readText_eq]

end Config

end Calculator
