import Calculator.Batch
import Calculator.Proofs.Text.Cuts

/-!
The lines of a batch.

A line feed ends a line. What stands behind the last one is a line too, unless there is nothing.
Whatever ends the line, carriage returns before that are not part of it, and there may be any number
of them. `IsLines` says this of a text and a list of lines, one rule for each way a text can begin;
a batch works on exactly these lines.

* `IsLines`: the lines of a text.
* `isLines_iff`: a text has one list of lines, and a batch evaluates it.
-/

namespace Calculator

/-- `line` is all of `piece` but the carriage returns at its end. -/
def Trims (piece line : String) : Prop :=
  (∃ n, piece = line ++ String.ofList (List.replicate n '\r')) ∧ line.toList.getLast? ≠ some '\r'

/-- `IsLines text lines`: these are the lines of the text, without their ends. -/
inductive IsLines : String → List String → Prop where
  | nil : IsLines "" []
  | last {piece line : String} (nonempty : piece ≠ "") (inside : '\n' ∉ piece.toList)
      (trims : Trims piece line) : IsLines piece [line]
  | cons {piece line rest : String} {lines : List String} (inside : '\n' ∉ piece.toList)
      (trims : Trims piece line) (following : IsLines rest lines) :
      IsLines (piece ++ "\n" ++ rest) (line :: lines)

/-- A piece between two line feeds as a batch sees it. -/
def trimLine (piece : String) : String :=
  String.ofList (Text.trimEnd (· == '\r') piece.toList)

theorem trims_iff {piece line : String} : Trims piece line ↔ trimLine piece = line := by
  have returns {ends : List Char} :
      (∃ n, ends = List.replicate n '\r') ↔ ∀ c ∈ ends, (c == '\r') = true := by
    simp only [beq_iff_eq]
    constructor
    · rintro ⟨n, rfl⟩ c member
      exact List.eq_of_mem_replicate member
    · intro all
      exact ⟨ends.length, List.eq_replicate_of_mem all⟩
  have split : (∃ n, piece = line ++ String.ofList (List.replicate n '\r')) ↔
      ∃ trimmed, piece.toList = line.toList ++ trimmed ∧ ∀ c ∈ trimmed, (c == '\r') = true := by
    simp only [← String.toList_inj, String.toList_append, String.toList_ofList, ← returns]
    grind
  have stops : line.toList.getLast? ≠ some '\r' ↔
      ∀ c ∈ line.toList.getLast?, (c == '\r') = false := by
    cases line.toList.getLast? <;> simp
  rw [Trims, split, stops, ← Text.trimEnd_eq_iff, trimLine, ← String.toList_inj,
    String.toList_ofList]

/-! ### The lines that a batch evaluates -/

theorem expressions_empty : expressions "" = [] := rfl

theorem expressions_last {piece : String} (nonempty : piece ≠ "") (inside : '\n' ∉ piece.toList) :
    expressions piece = [trimLine piece] := by
  have noLine : piece.toList ≠ [] := mt String.toList_eq_nil_iff.mp nonempty
  rw [expressions, Text.splitAt_eq_splitOn, List.splitOn_eq_singleton inside]
  simp [noLine, trimLine]

theorem expressions_cons {piece : String} (inside : '\n' ∉ piece.toList) (rest : String) :
    expressions (piece ++ "\n" ++ rest) = trimLine piece :: expressions rest := by
  have cut : Text.splitAt '\n' (piece ++ "\n" ++ rest).toList =
      piece.toList :: Text.splitAt '\n' rest.toList := by
    simp only [Text.splitAt_eq_splitOn, String.toList_append, List.append_assoc]
    exact List.splitOn_append_cons_self_of_not_mem inside _
  obtain ⟨first, pieces, pieces_eq⟩ :=
    List.exists_cons_of_ne_nil (List.splitOn_ne_nil '\n' rest.toList)
  rw [← Text.splitAt_eq_splitOn] at pieces_eq
  simp only [expressions, cut, pieces_eq, List.getLast?_cons_cons, List.dropLast_cons_cons]
  split
  · rw [List.map_cons, trimLine]
  · rw [List.map_cons, trimLine]

/-! ### One list of lines for a text -/

/-- A text has its lines, found from the first line feed on. -/
theorem isLines_expressions (text : String) : IsLines text (expressions text) := by
  induction size : text.toList.length using Nat.strongRecOn generalizing text with
  | ind size ih =>
    by_cases feed : '\n' ∈ text.toList
    · obtain ⟨piece, rest, characters, inside⟩ := List.eq_append_cons_of_mem feed
      obtain rfl : text = String.ofList piece ++ "\n" ++ String.ofList rest := by
        simp [← String.toList_inj, characters]
      rw [← String.toList_ofList (l := piece)] at inside
      rw [expressions_cons inside]
      refine .cons inside (trims_iff.mpr rfl) (ih _ ?_ (String.ofList rest) rfl)
      subst size
      simp only [characters, String.toList_ofList, List.length_append, List.length_cons]
      omega
    · by_cases empty : text = ""
      · subst empty
        exact .nil
      · rw [expressions_last empty feed]
        exact .last empty feed (trims_iff.mpr rfl)

/-- **A text has one list of lines, the one that a batch evaluates.** -/
theorem isLines_iff {text : String} {lines : List String} :
    IsLines text lines ↔ lines = expressions text := by
  constructor
  · intro h
    induction h with
    | nil => exact expressions_empty.symm
    | last nonempty inside trims => rw [expressions_last nonempty inside, trims_iff.mp trims]
    | cons inside trims _ ih => rw [expressions_cons inside, trims_iff.mp trims, ih]
  · rintro rfl
    exact isLines_expressions text

end Calculator
