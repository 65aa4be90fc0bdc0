import Calculator.Text.Split
import Mathlib.Data.List.DropRight

/-!
Cutting a text and putting it together again.

To cut at a separator is to undo joining with it, for pieces that do not hold it. To trim an end is
to leave out as much of it as can be left out. And there is only one way to cut at the first entry
of some kind.

* `Text.append_cons_unique`: the cut before the first entry that satisfies a predicate.
* `Text.exists_last_of_mem`: the cut at the last place of an entry.
* `Text.notMem_of_mem_splitOn`: the pieces between separators do not hold them.
* `Text.splitAt_intercalate`: the pieces of a joined text.
* `Text.splitOn_flatMap`: the pieces of a text in which every piece is ended.
* `Text.trimEnd_eq_iff`, `Text.trimEnd_append`: what is left of a text whose end is trimmed.
-/

namespace Calculator.Text

/-- Only one entry is the first that satisfies a predicate. -/
theorem append_cons_unique {α : Type} {p : α → Prop} {before before' after after' : List α}
    {a a' : α} (apart : ∀ b ∈ before, ¬ p b) (apart' : ∀ b ∈ before', ¬ p b) (holds : p a)
    (holds' : p a') (same : before ++ a :: after = before' ++ a' :: after') :
    before = before' ∧ a = a' ∧ after = after' := by
  rcases List.append_eq_append_iff.mp same with ⟨more, rfl, cut⟩ | ⟨more, rfl, cut⟩
  · cases more with
    | nil => exact ⟨(List.append_nil _).symm, List.cons.inj cut⟩
    | cons first more =>
      obtain ⟨rfl, -⟩ := List.cons.inj cut
      exact absurd holds (apart' a (by simp))
  · cases more with
    | nil => exact ⟨List.append_nil _, List.cons.inj cut.symm⟩
    | cons first more =>
      obtain ⟨rfl, -⟩ := List.cons.inj cut
      exact absurd holds' (apart a' (by simp))

/-- An entry of a list has a last place in it. -/
theorem exists_last_of_mem {α : Type} {a : α} {as : List α} (member : a ∈ as) :
    ∃ before after, as = before ++ a :: after ∧ a ∉ after := by
  obtain ⟨after, before, reversed, apart⟩ :=
    List.eq_append_cons_of_mem (List.mem_reverse.mpr member)
  refine ⟨before.reverse, after.reverse, ?_, by simpa using apart⟩
  rw [← List.reverse_inj, reversed]
  simp

/-- Cutting goes on behind the first character, which is a separator or belongs to the first
piece. -/
theorem splitAt_eq_splitOn (separator : Char) (cs : List Char) :
    splitAt separator cs = cs.splitOn separator := by
  induction cs with
  | nil => rfl
  | cons c cs ih =>
    obtain ⟨piece, pieces, pieces_eq⟩ :=
      List.exists_cons_of_ne_nil (List.splitOn_ne_nil separator cs)
    rw [splitAt] at ih ⊢
    rw [List.foldr_cons, ih, List.splitOn_cons_eq_if_modifyHead, pieces_eq]
    simp

/-- The separator stands in none of the pieces. -/
theorem notMem_of_mem_splitOn {separator : Char} {cs piece : List Char}
    (member : piece ∈ cs.splitOn separator) : separator ∉ piece := by
  induction cs generalizing piece with
  | nil =>
    obtain rfl := List.mem_singleton.mp member
    exact List.not_mem_nil
  | cons c cs ih =>
    rw [List.splitOn_cons_eq_if_modifyHead] at member
    split at member
    · rcases List.mem_cons.mp member with rfl | later
      · exact List.not_mem_nil
      · exact ih later
    · next other =>
      obtain ⟨first, pieces, cut⟩ :=
        List.exists_cons_of_ne_nil (List.splitOn_ne_nil separator cs)
      rw [cut, List.modifyHead_cons] at member
      rw [cut] at ih
      rcases List.mem_cons.mp member with rfl | later
      · have apart : c ≠ separator := by simpa using other
        exact List.not_mem_cons_of_ne_of_not_mem apart.symm (ih List.mem_cons_self)
      · exact ih (List.mem_cons_of_mem first later)

/-- There is one more piece than there are separators. -/
theorem length_splitOn (separator : Char) (cs : List Char) :
    (cs.splitOn separator).length = cs.count separator + 1 := by
  induction cs with
  | nil => rfl
  | cons c cs ih =>
    rw [List.splitOn_cons_eq_if_modifyHead, List.count_cons]
    split <;> simp [ih]

/-- Joined pieces that do not hold the separator are cut apart again. -/
theorem splitAt_intercalate {separator : Char} {pieces : List (List Char)} (some : pieces ≠ [])
    (apart : ∀ piece ∈ pieces, separator ∉ piece) :
    splitAt separator ([separator].intercalate pieces) = pieces := by
  rw [splitAt_eq_splitOn, List.splitOn_intercalate separator apart some]

/-- Lines that are ended are cut apart, and nothing stands behind the last one. -/
theorem splitOn_flatMap {separator : Char} {lines : List (List Char)}
    (apart : ∀ line ∈ lines, separator ∉ line) :
    (lines.flatMap (· ++ [separator])).splitOn separator = lines ++ [[]] := by
  induction lines with
  | nil => rfl
  | cons line lines ih =>
    obtain ⟨apartLine, apartLines⟩ := List.forall_mem_cons.mp apart
    rw [List.flatMap_cons, List.append_assoc, List.singleton_append,
      List.splitOn_append_cons_self_of_not_mem apartLine, ih apartLines, List.cons_append]

/-- What is left of a list whose end is trimmed: the list without an end of entries that satisfy the
predicate, if the entry before them does not. -/
theorem trimEnd_eq_iff {α : Type} {p : α → Bool} {as bs : List α} :
    trimEnd p as = bs ↔
      (∃ trimmed, as = bs ++ trimmed ∧ ∀ a ∈ trimmed, p a) ∧ ∀ b ∈ bs.getLast?, p b = false := by
  have stops_iff : bs.rdropWhile p = bs ↔ ∀ b ∈ bs.getLast?, p b = false := by
    rw [List.rdropWhile_eq_self_iff]
    cases bs with
    | nil => simp
    | cons b bs => simp [List.getLast?_eq_some_getLast]
  have same : trimEnd p as = as.rdropWhile p := rfl
  rw [same, ← stops_iff]
  constructor
  · rintro rfl
    refine ⟨⟨as.rtakeWhile p, List.rdropWhile_append_rtakeWhile.symm, ?_⟩, ?_⟩
    · exact fun _ => List.mem_rtakeWhile_imp
    · exact List.rdropWhile_idempotent p as
  · rintro ⟨⟨trimmed, rfl, all⟩, stops⟩
    have all : ∀ a ∈ trimmed.reverse, p a := fun a member => all a (List.mem_reverse.mp member)
    rw [List.rdropWhile, List.reverse_append, List.dropWhile_append_of_pos all]
    exact stops

/-- More of what is trimmed makes no difference. -/
theorem trimEnd_append {α : Type} {p : α → Bool} (as : List α) {more : List α}
    (all : ∀ a ∈ more, p a) : trimEnd p (as ++ more) = trimEnd p as := by
  obtain ⟨⟨trimmed, split, allTrimmed⟩, stops⟩ := trimEnd_eq_iff.mp (rfl : _ = trimEnd p as)
  refine trimEnd_eq_iff.mpr ⟨⟨trimmed ++ more, ?_, ?_⟩, stops⟩
  · rw [← List.append_assoc, ← split]
  · intro a member
    exact (List.mem_append.mp member).elim (allTrimmed a) (all a)

theorem trimEnd_prefix {α : Type} (p : α → Bool) (as : List α) : trimEnd p as <+: as :=
  List.rdropWhile_prefix p as

end Calculator.Text
