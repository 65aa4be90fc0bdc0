import Mathlib
import Calculator.Config
import Calculator.Proofs.Toml.Tables

/-!
What a configuration file may say.

A configuration depends on the table of its document alone, so all spellings of one table are the
same to it. Nothing in the table is passed over: a key that is not known, in the document or in the
table of the output, makes the document invalid, and so does a value of the wrong kind. Keys that
are left out have their defaults.

* `OutputSettings.DescribedBy`, `DescribedBy`: the values that a table gives.
* `Allowed`: the tables that give any.
* `read_of_text`: the configuration in a text whose `output`, if it is there, is a table.
-/

namespace Calculator

open Toml (Datum Entries Table Value)

/-- The table gives these settings: all of its keys are known, a key that is there has its value,
and a key that is not has its default. -/
structure OutputSettings.DescribedBy (settings : OutputSettings) (table : Table) : Prop where
  known : ∀ key, table key ≠ none → key = "precision" ∨ key = "echo"
  precision : table "precision" = settings.precision.map fun places => .integer places
  echo : table "echo" = none ∧ settings.echo = false ∨ table "echo" = some (.boolean settings.echo)

/-! ### Values -/

theorem precision?_eq_some {value : Value} {places : Nat} :
    precision? value = some places ↔ value.datum = .integer places := by
  cases value with
  | integer n =>
    rw [precision?, Value.datum, Datum.integer.injEq]
    split
    · rw [Option.some.injEq]; omega
    · simp only [reduceCtorEq, false_iff]; omega
  | _ => simp [precision?, Value.datum]

theorem echo?_eq_some {value : Value} {echo : Bool} :
    echo? value = some echo ↔ value.datum = .boolean echo := by
  cases value <;> simp [echo?, Value.datum]

/-- The value of `precision`, which may be left out, is the one given. -/
theorem decodeOr_precision {value : Option Value} {precision : Option Nat} :
    decodeOr none (some <$> precision? ·) value = some precision ↔
      value.map Value.datum = precision.map fun places => .integer places := by
  cases value with
  | none => cases precision <;> simp [decodeOr]
  | some value =>
    cases precision with
    | none => simp [decodeOr]
    | some places => simpa [decodeOr] using precision?_eq_some

/-- The value of `echo`, which may be left out, is the one given. -/
theorem decodeOr_echo {value : Option Value} {echo : Bool} :
    decodeOr false echo? value = some echo ↔
      value.map Value.datum = none ∧ echo = false ∨
        value.map Value.datum = some (.boolean echo) := by
  cases value with
  | none => simp [decodeOr, eq_comm]
  | some value => simpa [decodeOr] using echo?_eq_some

/-- The keys of entries are the known ones if those of their table are. -/
theorem all_keys_iff {entries : Entries} {p : String → Bool} :
    entries.keys.all p = true ↔ ∀ key, Entries.table entries key ≠ none → p key = true := by
  simp only [List.all_eq_true, Entries.table_ne_none]

/-- A table of the document gives the settings that its entries describe. -/
theorem OutputSettings.ofValue?_table {origin : Toml.Origin} {entries : Entries}
    {settings : OutputSettings} :
    ofValue? (.table origin entries) = some settings ↔
      settings.DescribedBy (Entries.table entries) := by
  have keys : (entries.keys.all fun key => key = "precision" || key = "echo") = true ↔
      ∀ key, Entries.table entries key ≠ none → key = "precision" ∨ key = "echo" := by
    simp only [all_keys_iff, Bool.or_eq_true, decide_eq_true_eq]
  obtain ⟨precision, echo⟩ := settings
  constructor
  · intro decoded
    simp only [ofValue?, Option.bind_eq_bind, Option.bind_eq_some_iff, Option.guard_eq_some',
      Option.some.injEq, OutputSettings.mk.injEq] at decoded
    obtain ⟨-, known, precision, places, echo, shown, rfl, rfl⟩ := decoded
    rw [decodeOr_precision, ← Entries.table_apply] at places
    rw [decodeOr_echo, ← Entries.table_apply] at shown
    exact ⟨keys.mp known, places, shown⟩
  · rintro ⟨known, places, shown⟩
    rw [Entries.table_apply] at places shown
    simp only [ofValue?, keys.mpr known, guard, decodeOr_precision.mpr places,
      decodeOr_echo.mpr shown]
    rfl

/-! ### Documents -/

namespace Config

variable {files : Files} {path text : String} {table : Table} {entries : Entries} {config : Config}

/-- The table gives this configuration. -/
structure DescribedBy (config : Config) (table : Table) : Prop where
  known : ∀ key, table key ≠ none → key = "output"
  output : table "output" = none ∧ config.output = {} ∨
    ∃ settings, table "output" = some (.table settings) ∧ config.output.DescribedBy settings

/-- The table gives a configuration: it has no unknown key, and each value is of its kind. -/
structure Allowed (table : Table) : Prop where
  known : ∀ key, table key ≠ none → key = "output"
  knownSetting : ∀ settings, table "output" = some (.table settings) →
    ∀ key, settings key ≠ none → key = "precision" ∨ key = "echo"
  precision : ∀ settings, table "output" = some (.table settings) →
    ∀ datum, settings "precision" = some datum → ∃ n : Int, 0 ≤ n ∧ datum = .integer n
  echo : ∀ settings, table "output" = some (.table settings) →
    ∀ datum, settings "echo" = some datum → ∃ b : Bool, datum = .boolean b

/-- What the table has for `output`, if anything, is a table. -/
def OutputIsTable (table : Table) : Prop :=
  ∀ datum, table "output" = some datum → ∃ settings, datum = .table settings

theorem exists_describedBy_iff (tabular : OutputIsTable table) :
    (∃ config : Config, config.DescribedBy table) ↔ Allowed table := by
  constructor
  · rintro ⟨config, known, absent | ⟨settings, present, described⟩⟩
    · exact ⟨known, by simp [absent.1], by simp [absent.1], by simp [absent.1]⟩
    · have only : ∀ others, table "output" = some (.table others) → others = settings := by
        intro others same
        rw [present] at same
        exact (Datum.table.inj (Option.some.inj same)).symm
      refine ⟨known, ?knownSetting, ?precision, ?echo⟩
      case knownSetting =>
        rintro others same
        rw [only others same]
        exact described.known
      case precision =>
        rintro others same datum given
        rw [only others same, described.precision, Option.map_eq_some_iff] at given
        obtain ⟨places, -, rfl⟩ := given
        exact ⟨places, by omega, rfl⟩
      case echo =>
        rintro others same datum given
        rw [only others same] at given
        obtain ⟨missing, -⟩ | shown := described.echo
        · rw [missing] at given
          cases given
        · exact ⟨_, Option.some.inj (given.symm.trans shown)⟩
  · intro allowed
    cases present : table "output" with
    | none => exact ⟨{}, allowed.known, .inl ⟨present, rfl⟩⟩
    | some datum =>
      obtain ⟨settings, rfl⟩ := tabular datum present
      obtain ⟨precision, places⟩ : ∃ precision : Option Nat,
          settings "precision" = precision.map fun places => .integer places := by
        cases given : settings "precision" with
        | none => exact ⟨none, rfl⟩
        | some datum =>
          obtain ⟨n, natural, rfl⟩ := allowed.precision settings present datum given
          exact ⟨some n.toNat, by rw [Option.map_some, Int.toNat_of_nonneg natural]⟩
      obtain ⟨echo, shown⟩ : ∃ echo : Bool,
          settings "echo" = none ∧ echo = false ∨ settings "echo" = some (.boolean echo) := by
        cases given : settings "echo" with
        | none => exact ⟨false, .inl ⟨rfl, rfl⟩⟩
        | some datum =>
          obtain ⟨b, rfl⟩ := allowed.echo settings present datum given
          exact ⟨b, .inr rfl⟩
      exact ⟨⟨⟨precision, echo⟩⟩, allowed.known,
        .inr ⟨settings, present, allowed.knownSetting settings present, places, shown⟩⟩

/-- A table with nothing but the output gives what the table of the output gives. -/
theorem describedBy_output_iff {settings : Table} :
    config.DescribedBy (fun key => if key = "output" then some (.table settings) else none) ↔
      config.output.DescribedBy settings := by
  constructor
  · rintro ⟨-, ⟨absent, -⟩ | ⟨others, present, describes⟩⟩
    · simp at absent
    · obtain rfl : settings = others := by simpa using present
      exact describes
  · intro describes
    refine ⟨fun key present => ?_, .inr ⟨settings, if_pos rfl, describes⟩⟩
    by_contra unknown
    exact present (if_neg unknown)

/-- Entries give the configuration that their table gives. -/
theorem ofEntries?_eq_some (tabular : OutputIsTable (Entries.table entries)) :
    ofEntries? entries = some config ↔ config.DescribedBy (Entries.table entries) := by
  have keys : (entries.keys.all fun key => key = "output") = true ↔
      ∀ key, Entries.table entries key ≠ none → key = "output" := by
    simp only [all_keys_iff, decide_eq_true_eq]
  have decoded : decodeOr {} OutputSettings.ofValue? (entries.get? "output") = some config.output ↔
      Entries.table entries "output" = none ∧ config.output = {} ∨
        ∃ settings, Entries.table entries "output" = some (.table settings) ∧
          config.output.DescribedBy settings := by
    rw [Entries.table_apply]
    cases present : entries.get? "output" with
    | none => simp [decodeOr, eq_comm]
    | some value =>
      obtain ⟨settings, isTable⟩ := tabular value.datum (by rw [Entries.table_apply, present]; rfl)
      cases value with
      | table origin sub =>
        have written : settings = Entries.table sub := (Datum.table.inj isTable).symm
        simp [decodeOr, OutputSettings.ofValue?_table, Value.datum]
      | _ => simp [Value.datum] at isTable
  obtain ⟨output⟩ := config
  simp only [ofEntries?, Option.bind_eq_bind, Option.bind_eq_some_iff, Option.guard_eq_some',
    Option.some.injEq, Config.mk.injEq]
  constructor
  · rintro ⟨-, known, output, isOutput, rfl⟩
    exact ⟨keys.mp known, decoded.mp isOutput⟩
  · rintro ⟨known, isOutput⟩
    exact ⟨(), keys.mpr known, output, decoded.mpr isOutput, rfl⟩

/-- A text gives the configuration that its table gives. -/
theorem parse?_eq_some (tabular : ∀ table, Toml.table? text = some table → OutputIsTable table) :
    parse? text = some config ↔
      ∃ table, Toml.table? text = some table ∧ config.DescribedBy table := by
  cases valid : Toml.read? text with
  | none => simp [parse?, Toml.table?, valid]
  | some entries =>
    have isTable : OutputIsTable (Entries.table entries) :=
      tabular _ (by rw [Toml.table?, valid]; rfl)
    simp [parse?, Toml.table?, valid, ofEntries?_eq_some isTable]

/-- A file gives the configuration in its text, or else is invalid. -/
theorem read_of_readText (contents : files.readText path = .ok text) :
    read files path = (parse? text).elim (.error (.invalid path)) .ok := by
  simp only [read, contents]
  cases parse? text <;> rfl

/-- **What comes of the text of a configuration file**, where `output` is a table or is left out.
There is a configuration if and only if the text is a valid document, no key is unknown, the value
of `precision` is a natural number and that of `echo` a truth value, as far as they are there; the
configuration then has these values, and the defaults for what is left out. Otherwise the file is
invalid. A file with the same table has the same configuration, and so has one that spells it in
another way. -/
theorem read_of_text (contents : files.readText path = .ok text)
    (tabular : ∀ table, Toml.table? text = some table → OutputIsTable table) :
    ((∃ config, read files path = .ok config) ↔
        ∃ table, Toml.table? text = some table ∧ Allowed table) ∧
      (∀ config, read files path = .ok config ↔
        ∃ table, Toml.table? text = some table ∧ config.DescribedBy table) ∧
      ((¬ ∃ config, read files path = .ok config) → read files path = .error (.invalid path)) ∧
      (∀ files' path' text', Files.readText files' path' = .ok text' →
        Toml.table? text' = Toml.table? text →
        ∀ config, read files' path' = .ok config ↔ read files path = .ok config) ∧
      ∀ lines items, Toml.lines? text = some lines → items.keys.Nodup →
        Toml.Spells "output" items lines →
        ∀ config, read files path = .ok config ↔
          config.output.DescribedBy (Entries.table items) := by
  have isOk {files : Files} {path text : String} (contents : files.readText path = .ok text)
      (config : Config) : read files path = .ok config ↔ parse? text = some config := by
    rw [read_of_readText contents]
    cases parse? text <;> simp
  have described (config : Config) : read files path = .ok config ↔
      ∃ table, Toml.table? text = some table ∧ config.DescribedBy table :=
    (isOk contents config).trans (parse?_eq_some tabular)
  refine ⟨?loads, described, ?invalid, ?sameTable, ?spelled⟩
  case loads =>
    simp only [described]
    constructor
    · rintro ⟨config, table, valid, describes⟩
      exact ⟨table, valid, (exists_describedBy_iff (tabular table valid)).mp ⟨config, describes⟩⟩
    · rintro ⟨table, valid, allowed⟩
      obtain ⟨config, describes⟩ := (exists_describedBy_iff (tabular table valid)).mpr allowed
      exact ⟨config, table, valid, describes⟩
  case invalid =>
    intro none
    rw [read_of_readText contents] at none ⊢
    cases decoded : parse? text with
    | none => rfl
    | some config => exact absurd ⟨config, by rw [decoded]; rfl⟩ none
  case sameTable =>
    intro files' path' text' contents' same config
    rw [described, isOk contents', parse?_eq_some (by rwa [same]), same]
  case spelled =>
    intro lines items lined distinct spells config
    have valid : Toml.table? text =
        some fun key => if key = "output" then some (.table (Entries.table items)) else none := by
      rw [Toml.table?_eq, lined, Option.bind_some, spells.tableOf?_eq distinct]
    simp only [described, valid, Option.some.injEq, exists_eq_left', describedBy_output_iff]

/-- The settings below a header, the same settings with dotted keys, in the other order and in base
sixteen, and a setting that is not known. -/
theorem read_of_text_header_dotted_unknown :
    let files : Files := ⟨fun _ => false, fun _ => false, fun path =>
      match path with
      | "header.toml" => .ok "# settings\n[output]\nprecision = 31\necho = true\n".toByteArray
      | "dotted.toml" => .ok "output.echo = true # shown\noutput.precision = 0x1F\n".toByteArray
      | "unknown.toml" => .ok "[output]\ncolour = true\n".toByteArray
      | _ => .error .notFound⟩
    read files "header.toml" = .ok ⟨⟨some 31, true⟩⟩ ∧
      read files "dotted.toml" = .ok ⟨⟨some 31, true⟩⟩ ∧
      read files "unknown.toml" = .error (.invalid "unknown.toml") := by
  intro files
  have loads {path text : String} {lines : List Toml.Line} {items : Entries}
      (contents : files.readText path = .ok text) (lined : Toml.lines? text = some lines)
      (distinct : items.keys.Nodup) (spells : Toml.Spells "output" items lines) :
      (∀ config, read files path = .ok config ↔
          config.output.DescribedBy (Entries.table items)) ∧
        ((¬ ∃ config, read files path = .ok config) →
          read files path = .error (.invalid path)) := by
    have isTable : ∀ table, Toml.table? text = some table → OutputIsTable table := by
      intro table valid datum present
      rw [Toml.table?_eq, lined, Option.bind_some, spells.tableOf?_eq distinct] at valid
      obtain rfl := Option.some.inj valid
      exact ⟨_, (Option.some.inj present).symm⟩
    obtain ⟨-, -, invalid, -, spelled⟩ := read_of_text contents isTable
    exact ⟨spelled lines items lined distinct spells, invalid⟩
  let items : Entries := [("precision", .integer 31), ("echo", .boolean true)]
  have describes : (OutputSettings.mk (some 31) true).DescribedBy (Entries.table items) := by
    refine ⟨fun key present => ?_, rfl, .inr rfl⟩
    simpa [items, Entries.keys] using Entries.table_ne_none.mp present
  refine ⟨?header, ?dotted, ?unknown⟩
  case header =>
    have contents : files.readText "header.toml" =
        .ok "# settings\n[output]\nprecision = 31\necho = true\n" := Files.readText_eq_ok.mpr rfl
    have spells : Toml.Spells "output" items ([] ++ .blank :: .openTable ["output"] ::
        items.map fun item => .assign [item.1] item.2) := .blank (.header items)
    exact ((loads contents (by cbv) (by decide) spells).1 _).mpr describes
  case dotted =>
    have contents : files.readText "dotted.toml" =
        .ok "output.echo = true # shown\noutput.precision = 0x1F\n" :=
      Files.readText_eq_ok.mpr rfl
    have spells : Toml.Spells "output" items
        (items.reverse.map fun item => .assign ["output", item.1] item.2) :=
      .perm items.reverse_perm (.dotted (List.cons_ne_nil _ _))
    exact ((loads contents (by cbv) (by decide) spells).1 _).mpr describes
  case unknown =>
    let items : Entries := [("colour", .boolean true)]
    have contents : files.readText "unknown.toml" = .ok "[output]\ncolour = true\n" :=
      Files.readText_eq_ok.mpr rfl
    obtain ⟨only, invalid⟩ := loads contents (by cbv) (by decide) (.header items)
    refine invalid ?_
    rintro ⟨config, loaded⟩
    have known := ((only config).mp loaded).known "colour" (Entries.table_ne_none.mpr (by decide))
    revert known
    decide

end Config

end Calculator
