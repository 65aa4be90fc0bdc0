import Mathlib.Data.Option.Basic
import Calculator.Toml.Document

/-!
The tables of TOML documents.

A table is a function from its keys to data. Of a document it keeps neither the order of the keys,
nor which tables have headers and which come from dotted keys or braces, and the lines it is read
from have dropped the comments and the bases of the numbers before. `Spells` lists the ways to write
down a document with one table, and all of them give the same.

* `Datum`, `Table`: what values and entries are, however they are written.
* `table?`: the table of a text, if it is a valid document.
* `Entries.table_eq_of_perm`: the order of entries does not count.
* `Spells.tableOf?_eq`: the table of a document, from any of its spellings.
-/

namespace Calculator.Toml

/-! ### Data -/

/-- A value without what is due to its spelling. -/
inductive Datum where
  | string (text : String)
  | integer (value : Int)
  | float (value : Float)
  | boolean (value : Bool)
  | datetime (text : String)
  | array (items : List Datum)
  | table (entries : String → Option Datum)

/-- The data of keys. -/
abbrev Table := String → Option Datum

mutual

/-- The datum that a value writes out. The tables of an array stand in it in the order of the
document. -/
def Value.datum : Value → Datum
  | .string text => .string text
  | .integer value => .integer value
  | .float value => .float value
  | .boolean value => .boolean value
  | .datetime text => .datetime text
  | .array items => .array (Value.data items)
  | .tables items => .array (Value.tableData items).reverse
  | .table _ entries => .table (Entries.table entries)

/-- The data of values. -/
def Value.data : List Value → List Datum
  | [] => []
  | value :: values => value.datum :: Value.data values

/-- The data of lists of entries. -/
def Value.tableData : List (List (String × Value)) → List Datum
  | [] => []
  | entries :: items => .table (Entries.table entries) :: Value.tableData items

/-- The table that entries write out. -/
def Entries.table : List (String × Value) → Table
  | [] => fun _ => none
  | (name, value) :: entries =>
    fun key => if key = name then some value.datum else Entries.table entries key

end

/-- The entries that the lines of a document amount to. -/
def entriesOf? (lines : List Line) : Option Entries :=
  (lines.foldlM State.add? ⟨[], []⟩).map State.entries

/-- The table of a document in lines. -/
def tableOf? (lines : List Line) : Option Table := (entriesOf? lines).map Entries.table

/-- The table of a text, if it is a valid document. -/
def table? (text : String) : Option Table := (read? text).map Entries.table

theorem read?_eq (text : String) : read? text = (lines? text).bind entriesOf? := by
  cases lined : lines? text with
  | none => simp [read?, lined]
  | some lines =>
    rw [read?, lined, Option.bind_some, entriesOf?, Option.map_eq_bind]
    rfl

theorem table?_eq (text : String) : table? text = (lines? text).bind tableOf? := by
  rw [table?, read?_eq, Option.map_bind]
  rfl

/-! ### Entries -/

namespace Entries

variable {entries entries' : Entries} {key : String} {value : Value}

/-- A table has the data of its entries. -/
theorem table_apply (entries : Entries) (key : String) :
    table entries key = (entries.get? key).map Value.datum := by
  induction entries with
  | nil => rfl
  | cons entry entries ih =>
    obtain ⟨name, value⟩ := entry
    rw [table, get?, List.lookup_cons]
    cases same : key == name with
    | true => exact if_pos (beq_iff_eq.mp same)
    | false => exact (if_neg (beq_eq_false_iff_ne.mp same)).trans ih

theorem get?_eq_none : entries.get? key = none ↔ key ∉ entries.keys := by
  rw [get?, List.lookup_eq_none_iff, keys, List.mem_map, not_exists]
  refine forall_congr' fun entry => ?_
  rw [bne_iff_ne, not_and, ne_comm]

/-- A table has the keys of its entries. -/
theorem table_ne_none : table entries key ≠ none ↔ key ∈ entries.keys := by
  rw [table_apply, Ne, Option.map_eq_none_iff, get?_eq_none, Classical.not_not]

/-- **The order of entries does not count**, if no two have one key. -/
theorem table_eq_of_perm (perm : entries.Perm entries') (distinct : entries.keys.Nodup) :
    table entries = table entries' := by
  induction perm with
  | nil => rfl
  | cons entry perm ih =>
    obtain ⟨name, value⟩ := entry
    rw [table, table, ih distinct.of_cons]
  | swap first second entries =>
    have differ : second.1 ≠ first.1 := fun same => (List.nodup_cons.mp distinct).1 (by simp [same])
    funext key
    simp only [table]
    by_cases isFirst : key = first.1
    · simp [isFirst, differ.symm]
    · simp [isFirst]
  | trans perm _ ih ih' =>
    exact (ih distinct).trans (ih' ((perm.map Prod.fst).nodup_iff.mp distinct))

/-- A new key comes behind the others. -/
theorem set_eq_append (fresh : key ∉ entries.keys) :
    entries.set key value = entries ++ [(key, value)] := by
  induction entries with
  | nil => rfl
  | cons entry entries ih =>
    have differ : entry.1 ≠ key := fun same => fresh (by simp [keys, same])
    have later : key ∉ Entries.keys entries := fun member => fresh (List.mem_cons_of_mem _ member)
    rw [set, if_neg differ, ih later]
    rfl

theorem add?_eq_append (fresh : key ∉ entries.keys) :
    entries.add? key value = some (entries ++ [(key, value)]) := by
  rw [add?, get?_eq_none.mpr fresh, set_eq_append fresh]
  rfl

end Entries

/-! ### Spellings -/

/-- `Spells name items lines`: the lines write out a document with the one table `name` of these
items. -/
inductive Spells (name : String) : Entries → List Line → Prop where
  /-- The table has a header, and the items come below it. -/
  | header (items : Entries) :
      Spells name items (.openTable [name] :: items.map fun item => .assign [item.1] item.2)
  /-- The table comes from dotted keys. -/
  | dotted {items : Entries} (nonempty : items ≠ []) :
      Spells name items (items.map fun item => .assign [name, item.1] item.2)
  /-- The table is written in braces. -/
  | inline (items : Entries) : Spells name items [.assign [name] (.table .inline items)]
  /-- The items come in another order. -/
  | perm {items items' : Entries} {lines : List Line} (perm : items.Perm items')
      (spells : Spells name items lines) : Spells name items' lines
  /-- A line is left blank or has nothing but a comment. -/
  | blank {items : Entries} {before after : List Line}
      (spells : Spells name items (before ++ after)) : Spells name items (before ++ .blank :: after)

section

variable {name : String} {items : Entries} {lines : List Line}

/-- Items come into their table one by one, if each line takes one there. Here `state sub` is the
state in which the table has the entries `sub`. -/
theorem foldlM_assign (state : Entries → State) (line : String × Value → Line)
    (takes : ∀ sub key value, key ∉ Entries.keys sub →
      (state sub).add? (line (key, value)) = some (state (sub ++ [(key, value)])))
    (items : Entries) : ∀ sub : Entries, (sub ++ items).keys.Nodup →
      (items.map line).foldlM State.add? (state sub) = some (state (sub ++ items)) := by
  induction items with
  | nil => intro sub _; simp
  | cons item items ih =>
    intro sub distinct
    obtain ⟨key, value⟩ := item
    have fresh : key ∉ sub.keys := by
      rw [Entries.keys, List.map_append] at distinct
      exact fun member => (List.nodup_append.mp distinct).2.2 key member key (by simp) rfl
    rw [List.map_cons, List.foldlM_cons, takes sub key value fresh, Option.bind_eq_bind,
      Option.bind_some, ih _ (by simpa using distinct), List.append_assoc, List.singleton_append]

/-- A line below a header adds to the table of the header. -/
theorem add?_assign_header {sub : Entries} {key : String} (value : Value) (fresh : key ∉ sub.keys) :
    State.add? ⟨[(name, .table .header sub)], [name]⟩ (.assign [key] value) =
      some ⟨[(name, .table .header (sub ++ [(key, value)]))], [name]⟩ := by
  simp [State.add?, Entries.update?, Entries.assign?, Entries.get?, Entries.set,
    Entries.add?_eq_append fresh, guard]

/-- A line with a dotted key adds to the table that such lines have made. -/
theorem add?_assign_dotted {sub : Entries} {key : String} (value : Value) (fresh : key ∉ sub.keys) :
    State.add? ⟨[(name, .table .dotted sub)], []⟩ (.assign [name, key] value) =
      some ⟨[(name, .table .dotted (sub ++ [(key, value)]))], []⟩ := by
  simp [State.add?, Entries.update?, Entries.assign?, Entries.originAt?, Entries.get?,
    Entries.set, Entries.add?_eq_append fresh, guard]

/-- Lines that say nothing add nothing. -/
theorem entriesOf?_blank (before after : List Line) :
    entriesOf? (before ++ .blank :: after) = entriesOf? (before ++ after) := by
  simp [entriesOf?, List.foldlM_append, State.add?]

/-- **Every spelling gives the same table**: the one with the items under its name. -/
theorem Spells.tableOf?_eq (spells : Spells name items lines) (distinct : items.keys.Nodup) :
    tableOf? lines =
      some fun key => if key = name then some (.table (Entries.table items)) else none := by
  induction spells with
  | header items =>
    have opened : State.add? ⟨[], []⟩ (.openTable [name]) =
        some ⟨[(name, .table .header [])], [name]⟩ := rfl
    have added := foldlM_assign (fun sub => ⟨[(name, .table .header sub)], [name]⟩)
      (fun item => .assign [item.1] item.2) (fun _ _ value => add?_assign_header value) items []
      distinct
    rw [tableOf?, entriesOf?, List.foldlM_cons, opened, Option.bind_eq_bind, Option.bind_some,
      added]
    rfl
  | @dotted items nonempty =>
    obtain ⟨⟨key, value⟩, items, rfl⟩ := List.exists_cons_of_ne_nil nonempty
    have opened : State.add? ⟨[], []⟩ (.assign [name, key] value) =
        some ⟨[(name, .table .dotted [(key, value)])], []⟩ := by
      simp [State.add?, Entries.update?, Entries.assign?, Entries.originAt?, Entries.get?,
        Entries.set, Entries.add?, guard]
    have added := foldlM_assign (fun sub => ⟨[(name, .table .dotted sub)], []⟩)
      (fun item => .assign [name, item.1] item.2) (fun _ _ value => add?_assign_dotted value) items
      [(key, value)] distinct
    rw [tableOf?, entriesOf?, List.map_cons, List.foldlM_cons, opened, Option.bind_eq_bind,
      Option.bind_some, added]
    rfl
  | inline items => rfl
  | perm perm _ ih =>
    have before := (perm.map Prod.fst).nodup_iff.mpr distinct
    rw [ih before, Entries.table_eq_of_perm perm before]
  | blank _ ih => rw [tableOf?, entriesOf?_blank, ← tableOf?, ih distinct]

end

end Calculator.Toml
