import Calculator.Proofs.Evaluation.Verdict
import Calculator.Proofs.Number.Exact
import Calculator.Proofs.Number.Shortest

/-!
Expressions of integers.

Without divisions, ordinary arithmetic gives an expression an integer. Evaluation works with doubles
and takes products from the right, but it gives that integer, as long as no number on the way
exceeds `2 ^ 53`: then each of them is the number of a double, and each operation is exact. The
numbers on the way are those of evaluation and not those of ordinary arithmetic, which takes
products from the left and may come by larger or smaller ones.

* `Expression.ordinary`: the number that ordinary arithmetic gives.
* `Expression.intermediates`: the numbers on the way of evaluation.
* `ProductTail.ordinaryAfter_eq_fromRight`: a product from the left is one from the right.
* `Expression.hasInteger_value`: each part has its number exactly.
* `evaluate_integers`: the value of an expression of integers.
-/

namespace Calculator

/-! ### Ordinary arithmetic -/

/-- An operator on numbers. -/
def Operator.ordinary (op : Operator) (left right : ℚ) : ℚ :=
  match op with
  | .add => left + right
  | .sub => left - right
  | .mul => left * right
  | .div => left / right

mutual

/-- The number of a sum: its terms from left to right. -/
def Expression.ordinary : Expression → ℚ
  | .mk term tail => tail.ordinaryAfter term.ordinary

/-- The number of a product: its factors from left to right. -/
def Term.ordinary : Term → ℚ
  | .mk factor tail => tail.ordinaryAfter factor.ordinary

/-- The number of a sum of which `left` is the part before the tail. -/
def SumTail.ordinaryAfter : SumTail → ℚ → ℚ
  | .empty, left => left
  | .next op term tail, left => tail.ordinaryAfter (op.operator.ordinary left term.ordinary)

/-- The number of a product of which `left` is the part before the tail. -/
def ProductTail.ordinaryAfter : ProductTail → ℚ → ℚ
  | .empty, left => left
  | .next op factor tail, left => tail.ordinaryAfter (op.operator.ordinary left factor.ordinary)

/-- The number of a group, a negation or a literal. -/
def Factor.ordinary : Factor → ℚ
  | .group inner => inner.ordinary
  | .negation operand => -operand.ordinary
  | .number text => Number.digitsValue text.toList

end

/-- A product taken from the right, of which `left` is the factor before the tail. -/
def ProductTail.fromRight : ProductTail → ℚ → ℚ
  | .empty, left => left
  | .next op factor tail, left => op.operator.ordinary left (tail.fromRight factor.ordinary)

mutual

/-- The numbers on the way to the value of a sum: those of its terms, and its partial sums from the
left. -/
def Expression.intermediates : Expression → List ℚ
  | .mk term tail => term.intermediates ++ tail.intermediatesAfter term.ordinary

/-- The numbers on the way to the value of a product: those of its factors, and its partial products
from the right. -/
def Term.intermediates : Term → List ℚ
  | .mk factor tail =>
    factor.intermediates ++ tail.fromRight factor.ordinary :: tail.intermediates

/-- The numbers in the tail of a sum of which `left` is the part before. -/
def SumTail.intermediatesAfter : SumTail → ℚ → List ℚ
  | .empty, _ => []
  | .next op term tail, left =>
    let sum := op.operator.ordinary left term.ordinary
    term.intermediates ++ sum :: tail.intermediatesAfter sum

/-- The numbers in the tail of a product. -/
def ProductTail.intermediates : ProductTail → List ℚ
  | .empty => []
  | .next _ factor tail =>
    factor.intermediates ++ tail.fromRight factor.ordinary :: tail.intermediates

/-- The numbers on the way to the value of a group, a negation or a literal. -/
def Factor.intermediates : Factor → List ℚ
  | .group inner => inner.intermediates
  | .negation operand => -operand.ordinary :: operand.intermediates
  | .number text => [(Number.digitsValue text.toList : ℚ)]

end

/-- A product may be taken from the left or from the right, if nothing is divided. -/
theorem ProductTail.fromRight_mul (a b : ℚ) : ∀ e : ProductTail,
    .operator .div ∉ e.toTree.leaves → e.fromRight (a * b) = a * e.fromRight b
  | .empty, _ => rfl
  | .next .times factor tail, _ => mul_assoc a b _
  | .next .over factor tail, undivided => absurd (by simp [Multiplicative.operator]) undivided

theorem ProductTail.ordinaryAfter_eq_fromRight : ∀ (e : ProductTail) {left : ℚ},
    .operator .div ∉ e.toTree.leaves → e.ordinaryAfter left = e.fromRight left
  | .empty, _, _ => rfl
  | .next .times factor tail, left, undivided => by
    have rest : .operator .div ∉ tail.toTree.leaves := fun member => undivided (by simp [member])
    rw [ProductTail.ordinaryAfter, ProductTail.fromRight, tail.ordinaryAfter_eq_fromRight rest]
    exact tail.fromRight_mul left factor.ordinary rest
  | .next .over factor tail, _, undivided => absurd (by simp [Multiplicative.operator]) undivided

/-! ### Exact integers -/

open Number (rational? Representable)

/-- The double has this number, which is an integer. -/
structure HasInteger (x : Float) (q : ℚ) : Prop where
  integer : ∃ n : Int, q = n
  exact : rational? x = some q

/-- No division is among the leaves, the numbers as written are runs of digits, and the numbers on
the way are at most `2 ^ 53`. -/
structure Integral (leaves : List Leaf) (intermediates : List ℚ) : Prop where
  digits : ∀ text, .number text ∈ leaves → IsDigits text
  undivided : .operator .div ∉ leaves
  small : ∀ q ∈ intermediates, |q| ≤ 2 ^ 53

section

variable {x y : Float} {a b : ℚ} {op : Operator} {leaves leaves' : List Leaf}
  {intermediates intermediates' : List ℚ}

theorem integral_append :
    Integral (leaves ++ leaves') (intermediates ++ intermediates') ↔
      Integral leaves intermediates ∧ Integral leaves' intermediates' := by
  constructor
  · rintro ⟨digits, undivided, small⟩
    rw [List.mem_append, not_or] at undivided
    rw [List.forall_mem_append] at small
    exact ⟨⟨fun text member => digits text (List.mem_append_left _ member), undivided.1, small.1⟩,
      fun text member => digits text (List.mem_append_right _ member), undivided.2, small.2⟩
  · rintro ⟨⟨digits, undivided, small⟩, digits', undivided', small'⟩
    refine ⟨fun text member => ?_, ?_, List.forall_mem_append.mpr ⟨small, small'⟩⟩
    · exact (List.mem_append.mp member).elim (digits text) (digits' text)
    · exact fun member => (List.mem_append.mp member).elim undivided undivided'

theorem integral_cons_intermediate {q : ℚ} :
    Integral leaves (q :: intermediates) ↔ |q| ≤ 2 ^ 53 ∧ Integral leaves intermediates := by
  constructor
  · rintro ⟨digits, undivided, small⟩
    rw [List.forall_mem_cons] at small
    exact ⟨small.1, digits, undivided, small.2⟩
  · rintro ⟨small, digits, undivided, smaller⟩
    exact ⟨digits, undivided, List.forall_mem_cons.mpr ⟨small, smaller⟩⟩

theorem Integral.of_subset (integral : Integral leaves' intermediates) (subset : leaves ⊆ leaves') :
    Integral leaves intermediates :=
  ⟨fun text member => integral.digits text (subset member),
    fun member => integral.undivided (subset member), integral.small⟩

/-- What follows an operator that is no division. -/
theorem Integral.of_cons_operator (integral : Integral (.operator op :: leaves) intermediates) :
    op ≠ .div ∧ Integral leaves intermediates := by
  refine ⟨?_, integral.of_subset (List.subset_cons_self _ _)⟩
  rintro rfl
  exact integral.undivided List.mem_cons_self

/-- Two integers with an operator between them have the integer of the operator, if it is small. -/
theorem HasInteger.apply (left : HasInteger x a) (right : HasInteger y b) (undivided : op ≠ .div)
    (small : |op.ordinary a b| ≤ 2 ^ 53) : HasInteger (op.apply x y) (op.ordinary a b) := by
  obtain ⟨⟨n, rfl⟩, exact⟩ := left
  obtain ⟨⟨k, rfl⟩, exact'⟩ := right
  obtain ⟨result, integer⟩ : ∃ result : Int, op.ordinary n k = result := by
    cases op with
    | add => exact ⟨n + k, (Int.cast_add n k).symm⟩
    | sub => exact ⟨n - k, (Int.cast_sub n k).symm⟩
    | mul => exact ⟨n * k, (Int.cast_mul n k).symm⟩
    | div => exact absurd rfl undivided
  refine ⟨⟨result, integer⟩, ?_⟩
  have representable : Representable (op.ordinary n k) := by
    rw [integer] at small ⊢
    exact Number.representable_intCast small
  cases op with
  | add => exact Number.rational?_add exact exact' representable
  | sub => exact Number.rational?_sub exact exact' representable
  | mul => exact Number.rational?_mul exact exact' representable
  | div => exact absurd rfl undivided

theorem HasInteger.neg (operand : HasInteger x a) : HasInteger (-x) (-a) := by
  obtain ⟨⟨n, rfl⟩, exact⟩ := operand
  exact ⟨⟨-n, (Int.cast_neg n).symm⟩, Number.rational?_neg exact⟩

/-- A literal up to `2 ^ 53` is read exactly. -/
theorem HasInteger.valueOf {text : String} (digits : IsDigits text)
    (small : |(Number.digitsValue text.toList : ℚ)| ≤ 2 ^ 53) :
    HasInteger (Number.valueOf text) (Number.digitsValue text.toList) := by
  refine ⟨⟨Number.digitsValue text.toList, (Int.cast_natCast _).symm⟩, ?_⟩
  rw [abs_of_nonneg (Nat.cast_nonneg _)] at small
  obtain ⟨m, e, normalized, value⟩ :=
    Number.exists_normalized (n := Number.digitsValue text.toList) (by exact_mod_cast small)
  have bits := Number.Decimal.doubleBits_of_normalized
    (d := ⟨Number.digitsValue text.toList, 0⟩) normalized
    (by simpa [Number.Decimal.value] using value)
  rw [Number.valueOf, Number.ofText?_of_isDigits digits, Option.getD_some,
    Number.Numeral.value_digits, bits, rational?, Number.parts_ofMagnitudeBits normalized, value]
  rfl

end

mutual

/-- The value of an expression is its number. -/
theorem Expression.hasInteger_value : ∀ e : Expression,
    Integral e.toTree.leaves e.intermediates → HasInteger e.value e.ordinary
  | .mk term tail, integral => by
    rw [Expression.leaves_mk, Expression.intermediates, integral_append] at integral
    rw [Expression.value, Expression.ordinary]
    exact tail.hasInteger_valueAfter (term.hasInteger_value integral.1) integral.2

/-- The value of a term is its number. -/
theorem Term.hasInteger_value : ∀ e : Term,
    Integral e.toTree.leaves e.intermediates → HasInteger e.value e.ordinary
  | .mk factor tail, integral => by
    rw [Term.leaves_mk, Term.intermediates, integral_append] at integral
    obtain ⟨first, rest⟩ := integral
    rw [Term.value, Term.ordinary, tail.ordinaryAfter_eq_fromRight rest.undivided]
    exact tail.hasInteger_valueAfter (factor.hasInteger_value first) rest

/-- The value of the tail of a sum after an operand is its number after that of the operand. -/
theorem SumTail.hasInteger_valueAfter : ∀ (e : SumTail) {x : Float} {left : ℚ},
    HasInteger x left → Integral e.toTree.leaves (e.intermediatesAfter left) →
      HasInteger (e.valueAfter x) (e.ordinaryAfter left)
  | .empty, x, left, has, _ => has
  | .next op term tail, x, left, has, integral => by
    rw [SumTail.leaves_next] at integral
    obtain ⟨undivided, integral⟩ := integral.of_cons_operator
    obtain ⟨first, rest⟩ := integral_append.mp integral
    obtain ⟨small, rest⟩ := integral_cons_intermediate.mp rest
    have sum := has.apply (term.hasInteger_value first) undivided small
    exact tail.hasInteger_valueAfter sum rest

/-- The value of the tail of a product after an operand is its number from the right. -/
theorem ProductTail.hasInteger_valueAfter : ∀ (e : ProductTail) {x : Float} {left : ℚ},
    HasInteger x left → Integral e.toTree.leaves (e.fromRight left :: e.intermediates) →
      HasInteger (e.valueAfter x) (e.fromRight left)
  | .empty, x, left, has, _ => has
  | .next op factor tail, x, left, has, integral => by
    rw [ProductTail.leaves_next] at integral
    obtain ⟨undivided, integral⟩ := integral.of_cons_operator
    obtain ⟨small, integral⟩ := integral_cons_intermediate.mp integral
    obtain ⟨first, rest⟩ := integral_append.mp integral
    have right := tail.hasInteger_valueAfter (factor.hasInteger_value first) rest
    exact has.apply right undivided small

/-- The value of a factor is its number. -/
theorem Factor.hasInteger_value : ∀ e : Factor,
    Integral e.toTree.leaves e.intermediates → HasInteger e.value e.ordinary
  | .group inner, integral => by
    rw [Factor.leaves_group] at integral
    exact inner.hasInteger_value (integral.of_subset fun leaf member => by simp [member])
  | .negation operand, integral => by
    rw [Factor.leaves_negation] at integral
    obtain ⟨-, rest⟩ := integral_cons_intermediate.mp integral
    exact (operand.hasInteger_value (rest.of_subset (List.subset_cons_self _ _))).neg
  | .number text, integral => by
    rw [Factor.leaves_number] at integral
    exact .valueOf (integral.digits text List.mem_cons_self)
      (integral.small _ List.mem_cons_self)

end

/-! ### Evaluating -/

/-- The sign of an operator of a tree is in the text of the tree. -/
theorem Tree.sign_mem_text {t : Tree} {op : Operator} (member : .operator op ∈ t.leaves) :
    op.sign.toList ⊆ t.text.toList := by
  intro c inSign
  rw [Tree.text, String.toList_join, List.mem_flatMap]
  exact ⟨op.sign, List.mem_map.mpr ⟨_, member, rfl⟩, inSign⟩

/-- **An expression of integers has its integer for value.** Let a text without a `/` parse, and let
all literals, negations, partial sums from the left and partial products from the right be at most
`2 ^ 53` in magnitude. Then ordinary arithmetic gives the expression an integer, and evaluating the
text gives the double of this integer, which is one of the two zeros if the integer is zero. -/
theorem evaluate_integers {text : String} {e : Expression} (parsed : parse text = .ok e)
    (undivided : '/' ∉ text.toList) (small : ∀ q ∈ e.intermediates, |q| ≤ 2 ^ 53) :
    ∃ (n : Int) (x : Float), e.ordinary = n ∧ evaluate text = .ok x ∧ rational? x = some (n : ℚ) ∧
      (n = 0 → x = 0.0 ∨ x = -0.0) := by
  obtain ⟨rfl, digits⟩ := parse_eq_ok_iff.mp parsed
  have integral : Integral e.toTree.leaves e.intermediates := by
    refine ⟨fun text member => ?_, fun member => ?_, small⟩
    · exact digits text (List.mem_filterMap.mpr ⟨_, member, rfl⟩)
    · exact undivided (Tree.sign_mem_text member (by decide))
  obtain ⟨⟨n, integer⟩, exact⟩ := e.hasInteger_value integral
  refine ⟨n, e.value, integer, evaluate_eq_ok.mpr ⟨e, parsed, rfl⟩, by rw [exact, integer], ?_⟩
  rintro rfl
  exact Number.eq_zero_of_rational? (by rw [exact, integer, Int.cast_zero])

/-- The first two factors alone would have the product `2 ^ 54`, but products are taken from the
right, where the last factor is zero. -/
theorem evaluate_integers_from_right :
    let text := "7-4503599627370496*4*(3-3)--2"
    '/' ∉ text.toList ∧ ∃ x, evaluate text = .ok x ∧ rational? x = some 9 := by
  intro text
  let zero : Factor := .group (.mk (.mk (.number "3") .empty)
    (.next .minus (.mk (.number "3") .empty) .empty))
  let product : Term := .mk (.number "4503599627370496")
    (.next .times (.number "4") (.next .times zero .empty))
  let e : Expression := .mk (.mk (.number "7") .empty)
    (.next .minus product (.next .minus (.mk (.negation (.number "2")) .empty) .empty))
  have undivided : '/' ∉ text.toList := by decide
  have parsed : parse text = .ok e := parse_eq_ok_iff.mpr ⟨by decide, by decide⟩
  have nine : e.ordinary = 9 := by decide +kernel
  obtain ⟨n, x, integer, evaluated, exact, -⟩ :=
    evaluate_integers parsed undivided (by decide +kernel)
  exact ⟨undivided, x, evaluated, by rw [exact, ← integer, nine]⟩

end Calculator
