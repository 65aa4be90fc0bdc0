import Calculator.Config
import Calculator.Proofs.Path.Ancestors

/-!
Which configuration counts.

A search looks in the starting directory and in the directories above it, and it ends at the first
one that has a configuration as a regular file. The configuration is what that file says, and
nothing else makes a difference: not the other configurations further up, and not the rest of the
file system. A file that is found but cannot be read or says nothing valid is an error. A path that
is named takes the place of the search.

* `Searched`, `Nearest`: where a search looks, and what it finds there.
* `FromFile`: what comes of the contents of one file.
* `find?_eq_some_iff`, `find?_eq_none_iff`: the outcomes of a search.
* `load_nearest`: the configuration for a start.
* `load_empty_file`: defaults that are found in a file.
-/

namespace Calculator.Config

variable {files : Files} {start path : String}

/-- `Searched files start directories`: a search from `start` looks in these directories, in order.
A start that is no directory gives way to its parent, if it has one. -/
inductive Searched (files : Files) (start : String) : List String → Prop where
  | directory {above : List String} (isDirectory : files.isDirectory start = true)
      (ascent : Path.Ascent start above) : Searched files start (start :: above)
  | parent {parent : String} {above : List String} (noDirectory : files.isDirectory start = false)
      (ascent : Path.Ascent start (parent :: above)) : Searched files start (parent :: above)
  | alone (noDirectory : files.isDirectory start = false) (ascent : Path.Ascent start []) :
      Searched files start [start]

/-- The path is that of the configuration in the first of the directories that has one as a regular
file. -/
def Nearest (files : Files) (directories : List String) (path : String) : Prop :=
  ∃ nearer directory further, directories = nearer ++ directory :: further ∧
    path = Path.join directory fileName ∧ files.isFile path = true ∧
    ∀ other ∈ nearer, files.isFile (Path.join other fileName) = false

/-- `FromFile path contents result`: the result of loading the configuration at `path`, where
reading has this outcome. -/
inductive FromFile (path : String) :
    Except ReadFault ByteArray → Except ConfigFault Config → Prop where
  | unreadable (fault : ReadFault) : FromFile path (.error fault) (.error (.unreadable path fault))
  | notText {bytes : ByteArray} (noText : ∀ text : String, text.toByteArray ≠ bytes) :
      FromFile path (.ok bytes) (.error (.unreadable path .notText))
  | invalid {text : String} (malformed : parse? text = none) :
      FromFile path (.ok text.toByteArray) (.error (.invalid path))
  | config {text : String} {config : Config} (decoded : parse? text = some config) :
      FromFile path (.ok text.toByteArray) (.ok config)

/-! ### Searching -/

/-- The candidates are the configurations of these directories. -/
theorem Searched.candidates_eq {directories : List String}
    (searched : Searched files start directories) :
    candidates files start = directories.map (Path.join · fileName) := by
  cases searched with
  | directory isDirectory ascent =>
    rw [candidates, if_pos isDirectory, ← Path.ascent_iff.mp ascent]
  | parent noDirectory ascent =>
    rw [candidates, if_neg (Bool.eq_false_iff.mp noDirectory), ← Path.ascent_iff.mp ascent]
  | alone noDirectory ascent =>
    rw [candidates, if_neg (Bool.eq_false_iff.mp noDirectory), ← Path.ascent_iff.mp ascent]

theorem exists_searched (files : Files) (start : String) :
    ∃ directories, Searched files start directories := by
  obtain ⟨above, ascent⟩ : ∃ above, Path.Ascent start above := ⟨_, Path.ascent_iff.mpr rfl⟩
  cases directory : files.isDirectory start with
  | true => exact ⟨_, .directory directory ascent⟩
  | false =>
    cases above with
    | nil => exact ⟨_, .alone directory ascent⟩
    | cons parent above => exact ⟨_, .parent directory ascent⟩

/-- What a search finds is what is nearest. -/
theorem find?_eq_some_iff :
    find? files start = some path ↔
      ∃ directories, Searched files start directories ∧ Nearest files directories path := by
  have found {directories : List String} (searched : Searched files start directories) :
      find? files start = some path ↔ Nearest files directories path := by
    rw [find?, searched.candidates_eq, List.find?_map, Option.map_eq_some_iff, Nearest]
    simp only [List.find?_eq_some_iff_append, Function.comp_apply]
    constructor
    · rintro ⟨directory, ⟨isFile, nearer, further, rfl, none⟩, rfl⟩
      exact ⟨nearer, directory, further, rfl, rfl, isFile, by simpa using none⟩
    · rintro ⟨nearer, directory, further, rfl, rfl, isFile, none⟩
      exact ⟨directory, ⟨isFile, nearer, further, rfl, by simpa using none⟩, rfl⟩
  constructor
  · intro some
    obtain ⟨directories, searched⟩ := exists_searched files start
    exact ⟨directories, searched, (found searched).mp some⟩
  · rintro ⟨directories, searched, nearest⟩
    exact (found searched).mpr nearest

theorem find?_eq_none_iff :
    find? files start = none ↔
      ∃ directories, Searched files start directories ∧
        ∀ directory ∈ directories, files.isFile (Path.join directory fileName) = false := by
  have missing {directories : List String} (searched : Searched files start directories) :
      find? files start = none ↔
        ∀ directory ∈ directories, files.isFile (Path.join directory fileName) = false := by
    simp [find?, searched.candidates_eq]
  constructor
  · intro none
    obtain ⟨directories, searched⟩ := exists_searched files start
    exact ⟨directories, searched, (missing searched).mp none⟩
  · rintro ⟨directories, searched, none⟩
    exact (missing searched).mpr none

/-! ### Loading -/

/-- What is read at a path comes of the contents there. -/
theorem fromFile_iff {result : Except ConfigFault Config} :
    FromFile path (files.read path) result ↔ read files path = result := by
  have complete : FromFile path (files.read path) (read files path) := by
    rw [read]
    cases text? : files.readText path with
    | error fault =>
      rcases Files.readText_eq_error.mp text? with unread | ⟨rfl, bytes, readable, noText⟩
      · rw [unread]
        exact .unreadable fault
      · rw [readable]
        exact .notText noText
    | ok text =>
      rw [Files.readText_eq_ok.mp text?]
      dsimp only
      cases decoded : parse? text with
      | none => exact .invalid decoded
      | some config => exact .config decoded
  constructor
  · intro fromFile
    rw [read]
    generalize contents : files.read path = outcome at fromFile
    cases fromFile with
    | unreadable fault => rw [Files.readText_eq_error.mpr (.inl contents)]
    | notText noText => rw [Files.readText_eq_error.mpr (.inr ⟨rfl, _, contents, noText⟩)]
    | invalid malformed =>
      rw [Files.readText_eq_ok.mpr contents]
      dsimp only
      rw [malformed]
    | config decoded =>
      rw [Files.readText_eq_ok.mpr contents]
      dsimp only
      rw [decoded]
  · rintro rfl
    exact complete

/-- Of the same contents at the same path come the same results. -/
theorem read_eq_of_contents {files' : Files} (same : files'.read path = files.read path) :
    read files' path = read files path := by
  rw [← fromFile_iff, same, fromFile_iff]

/-- **Nearest configuration wins, and nothing else matters.** A search goes up to the root or to the
working directory. It finds the configuration of the first directory that has one, and nothing if
there is none; a start without one has the defaults. What is found is loaded from its contents, in
the same way for all file systems and starts with this configuration, and it is no configuration if
it cannot be read or is invalid. So there are the defaults only where nothing is found or where the
contents of what is found say so. A path that is named is loaded from its contents whatever a search
would find. -/
theorem load_nearest (files : Files) (start : String) :
    (∀ above, Path.Ascent start above → ∀ last ∈ above.getLast?,
      (Path.IsAbsolute start → last = "/") ∧ (¬ Path.IsAbsolute start → last = "")) ∧
    (∀ path, find? files start = some path ↔
      ∃ directories, Searched files start directories ∧ Nearest files directories path) ∧
    (find? files start = none ↔
      ∃ directories, Searched files start directories ∧
        ∀ directory ∈ directories, files.isFile (Path.join directory fileName) = false) ∧
    (load files none start = .ok {} ↔
      find? files start = none ∨
        ∃ path text, find? files start = some path ∧ files.read path = .ok text.toByteArray ∧
          parse? text = some {}) ∧
    (∀ path, find? files start = some path →
      FromFile path (files.read path) (load files none start) ∧
      ∀ files' start', find? files' start' = some path → files'.read path = files.read path →
        load files' none start' = load files none start) ∧
    ∀ path, FromFile path (files.read path) (load files (some path) start) ∧
      ∀ files' start', files'.read path = files.read path →
        load files' (some path) start' = load files (some path) start := by
  have loads {files : Files} {start path : String} (search : find? files start = some path) :
      load files none start = read files path := by
    rw [load, Option.orElse_none, search]
  refine ⟨fun above ascent => ascent.getLast?_eq, fun path => find?_eq_some_iff, find?_eq_none_iff,
    ?defaults, ?found, ?asked⟩
  case defaults =>
    cases search : find? files start with
    | none => simp [load, search]
    | some path =>
      simp only [loads search, ← fromFile_iff, reduceCtorEq, false_or, Option.some.injEq,
        exists_and_left, exists_eq_left']
      generalize files.read path = contents
      constructor
      · intro fromFile
        cases fromFile with
        | config decoded => exact ⟨_, rfl, decoded⟩
      · rintro ⟨text, rfl, decoded⟩
        exact .config decoded
  case found =>
    intro path search
    refine ⟨fromFile_iff.mpr (loads search).symm, fun files' start' search' same => ?_⟩
    rw [loads search, loads search', read_eq_of_contents same]
  case asked =>
    intro path
    exact ⟨fromFile_iff.mpr rfl, fun files' start' same => read_eq_of_contents same⟩

/-- Two volumes with the same configuration in `/w`, of which one has another in the root. The start
is a file in `/w/a/b`, and `/w/a` has a directory where a configuration would be. A path without a
file is named as well. -/
theorem load_nearest_two_configurations :
    let inside : List (String × Entry) :=
      [("a", .directory [(fileName, .directory []), ("b", .directory [("c", .file ⟨#[]⟩)])]),
        (fileName, .file "[output]\nprecision = 2\n".toByteArray)]
    let files : Files := (Volume.mk (.directory [("w", .directory inside)]) ["w"]).files
    let files' : Files := (Volume.mk (.directory [("w", .directory inside),
      (fileName, .file "[output]\necho = true\n".toByteArray)]) []).files
    Searched files "/w/a//b/./c/" ["/w/a//b", "/w/a", "/w", "/"] ∧
      find? files "/w/a//b/./c/" = some "/w/reckon.toml" ∧
      find? files' "/w" = some "/w/reckon.toml" ∧ find? files' "/" = some "/reckon.toml" ∧
      load files none "/w/a//b/./c/" = .ok ⟨⟨some 2, false⟩⟩ ∧
      load files' none "/w" = load files none "/w/a//b/./c/" ∧
      load files (some "b") "/w/a//b/./c/" = .error (.unreadable "b" .notFound) := by
  intro inside files files'
  have searched : Searched files "/w/a//b/./c/" ["/w/a//b", "/w/a", "/w", "/"] :=
    .parent (by decide +kernel) (Path.ascent_iff.mpr (by decide +kernel))
  have nearest : Nearest files ["/w/a//b", "/w/a", "/w", "/"] "/w/reckon.toml" :=
    ⟨["/w/a//b", "/w/a"], "/w", ["/"], rfl, by decide, by decide +kernel, by decide +kernel⟩
  obtain ⟨-, finds, -, -, decides, asked⟩ := load_nearest files "/w/a//b/./c/"
  have search := (finds "/w/reckon.toml").mpr ⟨_, searched, nearest⟩
  have search' : find? files' "/w" = some "/w/reckon.toml" := by decide +kernel
  obtain ⟨fromFile, same⟩ := decides _ search
  obtain ⟨fromMissing, -⟩ := asked "b"
  exact ⟨searched, search, search', by decide +kernel,
    (fromFile_iff.mp fromFile).symm.trans (by decide +kernel), same files' "/w" search' rfl,
    (fromFile_iff.mp fromMissing).symm.trans (by decide +kernel)⟩

/-- Defaults are found as well: a configuration with nothing in it has them. -/
theorem load_empty_file :
    let files : Files := (Volume.mk (.directory [(fileName, .file "".toByteArray)]) []).files
    find? files "" = some "reckon.toml" ∧
      ¬ (load files none "" = .ok {} ↔ find? files "" = none) := by
  intro files
  have search : find? files "" = some "reckon.toml" := by decide +kernel
  have default : load files none "" = .ok {} := by decide +kernel
  simp [search, default]

end Calculator.Config
