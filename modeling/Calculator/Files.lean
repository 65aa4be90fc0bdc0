import Calculator.Path

/-!
Files.

What the calculator asks of a file system is three questions about a path: whether it is a
directory, whether it is a regular file, and what is in it. `Files` is any answer to them. `Volume`
is one that can be computed with: a tree of directories and a working directory in it.
-/

namespace Calculator

/-- Why nothing can be read from a path. -/
inductive ReadFault where
  | notFound
  | isDirectory
  /-- A step before the last leads to a file. -/
  | notDirectory
  /-- The bytes are no UTF-8. -/
  | notText
  | other
deriving DecidableEq, Repr

/-- What a file system answers about paths. -/
structure Files where
  isDirectory : String → Bool
  isFile : String → Bool
  read : String → Except ReadFault ByteArray

/-- The text of a file. -/
def Files.readText (files : Files) (path : String) : Except ReadFault String := do
  match String.fromUTF8? (← files.read path) with
  | some text => pure text
  | none => throw .notText

/-- Bytes are read as the text that has them. -/
theorem fromUTF8?_eq_some {bytes : ByteArray} {text : String} :
    String.fromUTF8? bytes = some text ↔ text.toByteArray = bytes := by
  rw [String.fromUTF8?]
  split
  · rw [Option.some.injEq, ← String.toByteArray_inj]
    exact eq_comm
  · next invalid =>
    have noText : text.toByteArray ≠ bytes := fun same => invalid (same ▸ text.isValidUTF8)
    simp [noText]

theorem Files.readText_eq_ok {files : Files} {path text : String} :
    files.readText path = .ok text ↔ files.read path = .ok text.toByteArray := by
  rw [readText]
  cases files.read path with
  | error fault => simp [bind, Except.bind]
  | ok bytes =>
    rw [Except.ok.injEq, ← @eq_comm _ text.toByteArray, ← fromUTF8?_eq_some]
    simp only [bind, Except.bind]
    cases String.fromUTF8? bytes <;>
      simp [pure, Except.pure, throw, throwThe, MonadExceptOf.throw]

/-- A path has no text if it cannot be read or if its bytes are those of no text. -/
theorem Files.readText_eq_error {files : Files} {path : String} {fault : ReadFault} :
    files.readText path = .error fault ↔
      files.read path = .error fault ∨
        fault = .notText ∧ ∃ bytes, files.read path = .ok bytes ∧
          ∀ text : String, text.toByteArray ≠ bytes := by
  rw [readText]
  cases files.read path with
  | error reason => simp [bind, Except.bind]
  | ok bytes =>
    have noText : (∀ text : String, text.toByteArray ≠ bytes) ↔ String.fromUTF8? bytes = none := by
      simp only [Ne, ← fromUTF8?_eq_some]
      exact Option.eq_none_iff_forall_ne_some.symm
    simp only [bind, Except.bind, Except.ok.injEq, exists_eq_left', noText]
    cases String.fromUTF8? bytes <;>
      simp [pure, Except.pure, throw, throwThe, MonadExceptOf.throw, eq_comm]

/-- Two file systems give the same answers about a path. -/
def Files.AgreeAt (files files' : Files) (path : String) : Prop :=
  files.isDirectory path = files'.isDirectory path ∧ files.isFile path = files'.isFile path ∧
    files.read path = files'.read path

theorem Files.AgreeAt.readText_eq {files files' : Files} {path : String}
    (h : files.AgreeAt files' path) : files.readText path = files'.readText path := by
  simp only [Files.readText, h.2.2]

/-- A file with its bytes, or a directory with its entries by name. -/
inductive Entry where
  | file (bytes : ByteArray)
  | directory (entries : List (String × Entry))

/-- The answers of a file system that has these entries, or faults, at its paths. -/
def Files.ofEntries (entryAt : String → Except ReadFault Entry) : Files where
  isDirectory path :=
    match entryAt path with
    | .ok (.directory _) => true
    | _ => false
  isFile path :=
    match entryAt path with
    | .ok (.file _) => true
    | _ => false
  read path :=
    match entryAt path with
    | .ok (.file bytes) => .ok bytes
    | .ok (.directory _) => .error .isDirectory
    | .error fault => .error fault

namespace Entry

/-- The entry that a step leads to from a directory. -/
def child? (name : String) : Entry → Except ReadFault Entry
  | .file _ => .error .notDirectory
  | .directory entries =>
    match entries.lookup name with
    | some entry => .ok entry
    | none => .error .notFound

/-- The entry that steps lead to from `here`, which lies in the directories `above`, nearest first.
The root lies in itself. -/
def follow (above : List Entry) (here : Entry) : List (List Char) → Except ReadFault Entry
  | [] => .ok here
  | step :: steps =>
    match here with
    | .file _ => .error .notDirectory
    | .directory _ =>
      if Path.isIdle step then follow above here steps
      else if step = ['.', '.'] then
        match above with
        | [] => follow [] here steps
        | parent :: above => follow above parent steps
      else
        match here.child? (String.ofList step) with
        | .ok next => follow (here :: above) next steps
        | .error fault => .error fault

/-- Puts a file at the end of steps, or with no bytes a directory, and makes the directories on the
way. What is a file stays one. -/
def insert (content : Option ByteArray) : List String → Entry → Entry
  | _, .file bytes => .file bytes
  | [], .directory entries => .directory entries
  | name :: steps, .directory entries =>
    let others := entries.filter (·.1 != name)
    match content, steps with
    | some bytes, [] => .directory ((name, .file bytes) :: others)
    | _, _ =>
      let old := (entries.lookup name).getD (.directory [])
      .directory ((name, insert content steps old) :: others)

end Entry

/-- A tree of directories, and the steps from its root to the working directory. -/
structure Volume where
  root : Entry
  workingDirectory : List String

namespace Volume

/-- What a path leads to. -/
def resolve (volume : Volume) (path : String) : Except ReadFault Entry :=
  match path.toList with
  | [] => .error .notFound
  | '/' :: cs => volume.root.follow [] (Text.splitAt '/' cs)
  | cs => volume.root.follow [] (volume.workingDirectory.map String.toList ++ Text.splitAt '/' cs)

/-- The answers of a volume. -/
def files (volume : Volume) : Files := .ofEntries volume.resolve

end Volume

end Calculator
