import Calculator.Proofs.Evaluation.Groups
import Calculator.Proofs.Number.Exact
import Calculator.Proofs.Number.Plain

/-!
Evaluating what was printed.

A value in plain notation may be given back as an expression. If the value is an integer, its text
is a number or a negated number, and evaluating it gives the value back, bit for bit, be it negative
zero or a number with three hundred digits. No other value has a text that is an expression: the
text of a fraction goes wrong at the point, and those of the infinities and of no number at all go
wrong at the word.

* `Number.Stops`: the text of a value that is no integer, cut where it goes wrong.
* `evaluate_signed_number`: the value of a number with or without a minus.
* `evaluate_formatValue`: what comes of evaluating a value in plain notation.
-/

namespace Calculator

namespace Number

/-- The sign in front of a magnitude. -/
def signText (negative : Bool) : String := if negative then "-" else ""

/-- `Stops parts before rest`: in the text of these parts, no expression goes on with `rest` behind
`before`. -/
inductive Stops : Parts → String → String → Prop where
  | nan : Stops .nan "" "NaN"
  | infinite (negative : Bool) : Stops (.infinite negative) (signText negative) "inf"
  | point (negative : Bool) (m : Nat) (e : Int) {whole fraction : String} (digits : IsDigits whole)
      (places : IsDigits fraction) :
      Stops (.finite negative m e) (signText negative ++ whole) ("." ++ fraction)

/-! ### The text of a double -/

section

variable {v : Float} {negative : Bool} {m : Nat} {e : Int}

theorem ofList_signed (negative : Bool) (text : List Char) :
    String.ofList (if negative then '-' :: text else text) =
      signText negative ++ String.ofList text := by
  cases negative <;> simp [signText, String.ofList_cons]

theorem plain_of_finite (finite : parts v = .finite negative m e) :
    plain v = signText negative ++ String.ofList (plainMagnitude m e) := by
  rw [plain_eq, withParts, finite]
  exact ofList_signed negative _

theorem plain_of_infinite (infinite : parts v = .infinite negative) :
    plain v = signText negative ++ "inf" := by
  rw [plain_eq, withParts, infinite]
  exact ofList_signed negative _

theorem plain_of_nan (number : parts v = .nan) : plain v = "NaN" := by
  rw [plain_eq, withParts, number]

/-- A finite double is an integer if its magnitude is a natural. -/
theorem rational?_int_iff (finite : parts v = .finite negative m e) :
    (∃ n : Int, rational? v = some n) ↔ IsNatural (m * 2 ^ e) := by
  have value : rational? v = some (signedValue negative m e) := by
    rw [rational?, finite]
    rfl
  constructor
  · rintro ⟨n, integer⟩
    obtain same := Option.some.inj (value.symm.trans integer)
    refine ⟨n.natAbs, ?_⟩
    rw [← abs_signedValue negative, same, ← Int.cast_abs, Int.abs_eq_natAbs]
    rfl
  · rintro ⟨n, natural⟩
    rw [value, signedValue, natural]
    cases negative
    · exact ⟨n, by simp⟩
    · exact ⟨-n, by simp⟩

/-- What stands before the place where a text goes wrong is digits behind a sign, and no expression
has a character like the first one of the rest. -/
theorem Stops.cut {parts : Parts} {before rest : String} (stops : Stops parts before rest) :
    (∀ c ∈ before.toList, Lexable c) ∧ BeginsForeign rest := by
  have sign (negative : Bool) : ∀ c ∈ (signText negative).toList, Lexable c := by
    cases negative <;> simp [signText, Lexable]
  cases stops with
  | nan => exact ⟨by simp, 'N', by decide, by decide⟩
  | infinite negative => exact ⟨sign negative, 'i', by decide, by decide⟩
  | @point negative m e whole fraction digits places =>
    refine ⟨?_, '.', by simp, by decide⟩
    rw [String.toList_append]
    exact List.forall_mem_append.mpr ⟨sign negative, fun c member => .inl (digits.2 c member)⟩

end

end Number

/-! ### Evaluating the text -/

/-- A number, or a number with a minus before it, has the value of the number or its negation. -/
theorem evaluate_signed_number {text : String} {value : Float} (digits : IsDigits text)
    (read : Number.ofText? text = some value) (negative : Bool) :
    evaluate (Number.signText negative ++ text) = .ok (if negative then -value else value) := by
  have valueOf : Number.valueOf text = value := by rw [Number.valueOf, read]; rfl
  have number : (Factor.number text).toTree.text = text := by simp [Tree.text, Leaf.text]
  cases negative with
  | false =>
    refine evaluate_eq_ok_iff_text.mpr ⟨(Factor.number text).toExpression, ?_, ?_, ?_⟩
    · rw [Factor.text_toExpression, number]
      simp [Number.signText]
    · rw [Factor.numbers_toExpression, Factor.numbers_number]
      simpa using digits
    · rw [Factor.value_toExpression, Factor.value, valueOf]
      rfl
  | true =>
    refine evaluate_eq_ok_iff_text.mpr ⟨(Factor.negation (.number text)).toExpression, ?_, ?_, ?_⟩
    · rw [Factor.text_toExpression, Factor.text_negation, number]
      rfl
    · rw [Factor.numbers_toExpression, Factor.numbers_negation, Factor.numbers_number]
      simpa using digits
    · rw [Factor.value_toExpression, Factor.value, Factor.value, valueOf]
      rfl

open Number

/-- The text of an integer evaluates to the integer. -/
theorem evaluate_plain_of_int {v : Float} (integer : ∃ n : Int, rational? v = some n) :
    evaluate (plain v) = .ok v := by
  cases taken : parts v with
  | finite negative m e =>
    obtain ⟨digits, y, read, same⟩ := plainMagnitude_of_natural (normalized_of_parts taken)
      ((rational?_int_iff taken).mp integer)
    rw [plain_of_finite taken, evaluate_signed_number digits read negative]
    -- What is read has the parts of the value, up to the sign.
    refine congrArg Except.ok (parts_injective ?_)
    cases negative with
    | false => exact same.trans taken.symm
    | true => exact (parts_neg y).trans (by rw [same, taken]; rfl)
  | _ =>
    obtain ⟨n, integer⟩ := integer
    rw [rational?, taken] at integer
    cases integer

/-- The text of a value that is no integer goes wrong somewhere. -/
theorem exists_stops {v : Float} (noInteger : ¬ ∃ n : Int, rational? v = some n) :
    ∃ before rest, Stops (parts v) before rest ∧ plain v = before ++ rest := by
  cases taken : parts v with
  | nan => exact ⟨_, _, .nan, plain_of_nan taken⟩
  | infinite negative => exact ⟨_, _, .infinite negative, plain_of_infinite taken⟩
  | finite negative m e =>
    obtain ⟨whole, fraction, written, nonempty, nonempty', digits, digits'⟩ :=
      plainMagnitude_of_not_natural (normalized_of_parts taken)
        (mt (rational?_int_iff taken).mpr noInteger)
    refine ⟨_, _, .point negative m e (isDigits_ofList.mpr ⟨nonempty, digits⟩)
      (isDigits_ofList.mpr ⟨nonempty', digits'⟩), ?_⟩
    rw [plain_of_finite taken, written, String.append_assoc]
    congr 1
    simp

/-- **Evaluating a value in plain notation.** Every value has a text if no number of places is set,
which is an expression if and only if the value is finite and an integer, and then it evaluates to
the value again, bit for bit. The text of any other value is refused by the lexer, with the rest of
the text from the point, from `inf` or from `NaN` on. -/
theorem evaluate_formatValue (echo : Bool) (v : Float) :
    ∃ text, OutputSettings.formatValue? ⟨none, echo⟩ v = some text ∧
      ((∃ value, evaluate text = .ok value) ↔ ∃ n : Int, rational? v = some n) ∧
      ((∃ n : Int, rational? v = some n) → evaluate text = .ok v) ∧
      ((¬ ∃ n : Int, rational? v = some n) →
        ∃ before rest, Stops (parts v) before rest ∧ text = before ++ rest ∧
          RefusedByLexing text ⟨rest, before.utf8ByteSize⟩) := by
  have stops (noInteger : ¬ ∃ n : Int, rational? v = some n) :
      ∃ before rest, Stops (parts v) before rest ∧ plain v = before ++ rest ∧
        RefusedByLexing (plain v) ⟨rest, before.utf8ByteSize⟩ := by
    obtain ⟨before, rest, stops, written⟩ := exists_stops noInteger
    obtain ⟨lexable, foreign⟩ := stops.cut
    refine ⟨before, rest, stops, written, ?_⟩
    rw [written]
    exact refusedByLexing_append lexable foreign
  refine ⟨plain v, rfl, ⟨?_, fun integer => ⟨v, evaluate_plain_of_int integer⟩⟩,
    evaluate_plain_of_int, stops⟩
  rintro ⟨value, evaluated⟩
  by_contra noInteger
  obtain ⟨before, rest, -, -, refused⟩ := stops noInteger
  rw [refused.evaluation] at evaluated
  cases evaluated

end Calculator
