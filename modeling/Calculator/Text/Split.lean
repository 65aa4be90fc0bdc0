/-!
Cutting a text at a separator, and trimming its end.
-/

namespace Calculator.Text

/-- The pieces between the separators, empty ones too; there is always one more than separators. -/
def splitAt (separator : Char) (cs : List Char) : List (List Char) :=
  cs.foldr (fun c pieces =>
    if c = separator then [] :: pieces
    else
      match pieces with
      | [] => [[c]]
      | piece :: pieces => (c :: piece) :: pieces) [[]]

/-- A list without those entries at its end that satisfy `p`. -/
def trimEnd {α : Type} (p : α → Bool) (as : List α) : List α :=
  (as.reverse.dropWhile p).reverse

theorem length_trimEnd_le {α : Type} (p : α → Bool) (as : List α) :
    (trimEnd p as).length ≤ as.length := by
  have := (List.dropWhile_suffix p (l := as.reverse)).length_le
  simpa [trimEnd] using this

end Calculator.Text
