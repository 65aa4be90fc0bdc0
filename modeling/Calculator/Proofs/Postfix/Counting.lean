import Calculator.Fold
import Mathlib.Data.List.Forall2
import Mathlib.Data.Nat.Find

/-!
The verdict on a postfix sequence, by counting.

Whether a sequence can be folded has nothing to do with values. A number makes the stack one operand
higher, a binary operator one lower, and a negation leaves its height as it is. So the height behind
a few symbols is the numbers among them less the binary operators, and a symbol that finds too few
operands shows in the counts: with it the numbers no longer outnumber the operators. The only other
thing that can stop a fold is a number that cannot be read.

* `Postfix.StopsAt`: a symbol that cannot be applied, by the counts.
* `Postfix.step_cases`: what one symbol does to the height of the stack, or why it fails.
* `Postfix.run_of_stopsFirstAt`, `Postfix.run_of_not_stopsAt`: a run fails at the first such symbol,
  and goes through without one.
* `Postfix.fold_verdict`: the verdict of a fold.
-/

namespace Calculator

namespace Symbol

/-- Whether the symbol is a number. -/
def isNumber : Symbol → Bool
  | .number _ => true
  | _ => false

/-- Whether the symbol is a binary operator. -/
def isOperator : Symbol → Bool
  | .operator _ => true
  | _ => false

/-- The symbol is not a number, or it is one that can be read. -/
def Readable : Symbol → Prop
  | .number text => (Number.ofText? text).isSome
  | _ => True

instance : DecidablePred Readable
  | .number text => inferInstanceAs (Decidable ((Number.ofText? text).isSome = true))
  | .operator _ => .isTrue trivial
  | .negate => .isTrue trivial

/-- The failure of a symbol that cannot be applied, at its position. -/
def fault (position : Nat) : Symbol → FoldError
  | .number text => .invalidNumber text
  | symbol => .missingOperand symbol position

/-- The same symbol, or two numbers that can both be read. -/
inductive Alike : Symbol → Symbol → Prop where
  | refl (s : Symbol) : Alike s s
  | number {text text' : String} (readable : (Symbol.number text).Readable)
      (readable' : (Symbol.number text').Readable) : Alike (.number text) (.number text')

end Symbol

namespace Postfix

/-! ### Counts -/

/-- How many numbers a sequence has. -/
def numbers (p : Postfix) : Nat := p.countP Symbol.isNumber

/-- How many binary operators a sequence has. -/
def operators (p : Postfix) : Nat := p.countP Symbol.isOperator

theorem numbers_cons (s : Symbol) (p : Postfix) : numbers (s :: p) = numbers p + numbers [s] := by
  simp [numbers, List.countP_cons]

theorem operators_cons (s : Symbol) (p : Postfix) :
    operators (s :: p) = operators p + operators [s] := by
  simp [operators, List.countP_cons]

/-- The symbol at position `i` cannot be applied if `height` operands lie on the stack before the
first one: it is a number that cannot be read, or with it there are at most as many operands and
numbers as binary operators. -/
def StopsAt (height : Nat) (p : Postfix) (i : Nat) : Prop :=
  ∃ s ∈ p[i]?, ¬ s.Readable ∨ height + numbers (p.take (i + 1)) ≤ operators (p.take (i + 1))

instance (height : Nat) (p : Postfix) (i : Nat) : Decidable (StopsAt height p i) :=
  inferInstanceAs (Decidable (∃ s ∈ p[i]?, _))

/-- The first symbol that cannot be applied stands at position `i`. -/
def StopsFirstAt (height : Nat) (p : Postfix) (i : Nat) : Prop :=
  StopsAt height p i ∧ ∀ j < i, ¬ StopsAt height p j

instance (height : Nat) (p : Postfix) (i : Nat) : Decidable (StopsFirstAt height p i) :=
  inferInstanceAs (Decidable (_ ∧ _))

theorem stopsAt_zero {height : Nat} {s : Symbol} {p : Postfix} :
    StopsAt height (s :: p) 0 ↔ ¬ s.Readable ∨ height + numbers [s] ≤ operators [s] := by
  simp [StopsAt]

/-- Behind the first symbol the same counts are reached from the height that it leaves. -/
theorem stopsAt_succ {height after : Nat} {s : Symbol} {p : Postfix} {i : Nat}
    (level : after + operators [s] = height + numbers [s]) :
    StopsAt height (s :: p) (i + 1) ↔ StopsAt after p i := by
  have counts : height + numbers (s :: p.take (i + 1)) ≤ operators (s :: p.take (i + 1)) ↔
      after + numbers (p.take (i + 1)) ≤ operators (p.take (i + 1)) := by
    rw [numbers_cons, operators_cons]
    omega
  simp only [StopsAt, List.getElem?_cons_succ, List.take_succ_cons, counts]

/-! ### One symbol -/

/-- **A symbol is applied, and changes the height of the stack by what it counts, or it is the one
that stops.** -/
theorem step_cases (position : Nat) (s : Symbol) (p : Postfix) (operands : List Float) :
    (StopsAt operands.length (s :: p) 0 ∧
        (step position s operands).result = .error (s.fault position)) ∨
      (¬ StopsAt operands.length (s :: p) 0 ∧ ∃ operands',
        (step position s operands).result = .ok operands' ∧
          operands'.length + operators [s] = operands.length + numbers [s]) := by
  rw [stopsAt_zero]
  cases s with
  | number text =>
    cases h : Number.ofText? text with
    | none =>
      left
      simp [step, h, Symbol.Readable, Symbol.fault, Logged.result_fail]
    | some value =>
      right
      simp [step, h, Symbol.Readable, numbers, operators, Symbol.isNumber, Symbol.isOperator,
        Logged.result_pure]
  | operator op =>
    rcases operands with _ | ⟨right, _ | ⟨left, operands⟩⟩
    · exact .inl ⟨.inr (Nat.zero_le 1), rfl⟩
    · exact .inl ⟨.inr (Nat.le_refl 1), rfl⟩
    · refine .inr ⟨?_, op.apply left right :: operands, rfl, ?_⟩ <;>
        simp [Symbol.Readable, numbers, operators, Symbol.isNumber, Symbol.isOperator]
  | negate =>
    rcases operands with _ | ⟨operand, operands⟩
    · exact .inl ⟨.inr (Nat.le_refl 0), rfl⟩
    · refine .inr ⟨?_, -operand :: operands, rfl, ?_⟩ <;>
        simp [Symbol.Readable, numbers, operators, Symbol.isNumber, Symbol.isOperator]

/-! ### A run -/

theorem result_run_cons (position : Nat) (s : Symbol) (p : Postfix) (operands : List Float) :
    (run position (s :: p) operands).result =
      (step position s operands).result >>= fun operands' =>
        (run (position + 1) p operands').result := by
  rw [run, Logged.result_bind]

/-- **A run fails at the first symbol that cannot be applied**, with the failure of that symbol. -/
theorem run_of_stopsFirstAt {p : Postfix} {i : Nat} {s : Symbol} (here : p[i]? = some s)
    (position : Nat) {operands : List Float} (first : StopsFirstAt operands.length p i) :
    (run position p operands).result = .error (s.fault (position + i)) := by
  induction p generalizing i position operands with
  | nil => simp at here
  | cons t p ih =>
    obtain ⟨stops, before⟩ := first
    rw [result_run_cons]
    rcases step_cases position t p operands with ⟨now, failed⟩ | ⟨notNow, operands', applied, level⟩
    · have atStart : i = 0 := by
        by_contra later
        exact before 0 (Nat.pos_of_ne_zero later) now
      subst atStart
      rw [List.getElem?_cons_zero, Option.some.injEq] at here
      subst here
      rw [failed]
      rfl
    · cases i with
      | zero => exact absurd stops notNow
      | succ i =>
        rw [List.getElem?_cons_succ] at here
        have firstBehind : StopsFirstAt operands'.length p i := by
          refine ⟨(stopsAt_succ level).mp stops, fun j earlier => ?_⟩
          exact mt (stopsAt_succ level).mpr (before (j + 1) (Nat.succ_lt_succ earlier))
        rw [applied, Nat.add_comm i 1, ← Nat.add_assoc]
        exact ih here (position + 1) firstBehind

/-- **A run without such a symbol goes through**, and leaves a stack as high as the counts say. -/
theorem run_of_not_stopsAt {p : Postfix} (position : Nat) {operands : List Float}
    (clear : ∀ i, ¬ StopsAt operands.length p i) :
    ∃ operands', (run position p operands).result = .ok operands' ∧
      operands'.length + operators p = operands.length + numbers p := by
  induction p generalizing position operands with
  | nil => exact ⟨operands, rfl, rfl⟩
  | cons s p ih =>
    rcases step_cases position s p operands with ⟨now, -⟩ | ⟨-, behind, applied, level⟩
    · exact absurd now (clear 0)
    · obtain ⟨operands', run, height⟩ := ih (position + 1) fun i =>
        mt (stopsAt_succ level).mpr (clear (i + 1))
      refine ⟨operands', ?_, ?_⟩
      · rw [result_run_cons, applied]
        exact run
      · rw [numbers_cons, operators_cons]
        omega

/-! ### Stops and prefixes -/

theorem exists_stopsFirstAt {height : Nat} {p : Postfix} (h : ∃ i, StopsAt height p i) :
    ∃ i, StopsFirstAt height p i := by
  classical
  exact ⟨Nat.find h, Nat.find_spec h, fun _ => Nat.find_min h⟩

/-- Nothing stops where every number can be read and every prefix has more numbers than binary
operators. -/
theorem forall_not_stopsAt_iff {p : Postfix} :
    (∀ i, ¬ StopsAt 0 p i) ↔
      (∀ s ∈ p, s.Readable) ∧ ∀ q, q <+: p → q ≠ [] → operators q < numbers q := by
  constructor
  · intro clear
    refine ⟨fun s member => ?_, fun q within nonempty => ?_⟩
    · obtain ⟨i, here⟩ := List.mem_iff_getElem?.mp member
      by_contra unreadable
      exact clear i ⟨s, here, .inl unreadable⟩
    · obtain ⟨i, length⟩ :=
        Nat.exists_eq_add_one_of_ne_zero (mt List.length_eq_zero_iff.mp nonempty)
      have inside : i < p.length := by
        have := within.length_le
        omega
      by_contra few
      refine clear i ⟨p[i], List.getElem?_eq_getElem inside, .inr ?_⟩
      rw [← length, ← List.prefix_iff_eq_take.mp within]
      omega
  · rintro ⟨readable, more⟩ i ⟨s, here, unreadable | few⟩
    · exact unreadable (readable s (List.mem_of_getElem? here))
    · obtain ⟨inside, -⟩ := List.getElem?_eq_some_iff.mp here
      have nonempty : p.take (i + 1) ≠ [] := by
        rw [Ne, List.take_eq_nil_iff, not_or]
        exact ⟨Nat.succ_ne_zero i, List.ne_nil_of_length_pos (Nat.zero_lt_of_lt inside)⟩
      have := more _ (List.take_prefix _ _) nonempty
      omega

/-- If the first symbol that stops is a number, the counts are not what stops it. -/
theorem StopsFirstAt.lt_of_number {p : Postfix} {i : Nat} {text : String}
    (first : StopsFirstAt 0 p i) (here : p[i]? = some (.number text)) :
    operators (p.take (i + 1)) < numbers (p.take (i + 1)) := by
  have before : operators (p.take i) ≤ numbers (p.take i) := by
    cases i with
    | zero => simp [operators]
    | succ j =>
      obtain ⟨inside, -⟩ := List.getElem?_eq_some_iff.mp here
      have notBefore := first.2 j (Nat.lt_succ_self j)
      by_contra few
      exact notBefore ⟨p[j], List.getElem?_eq_getElem (by omega), .inr (by omega)⟩
  have next : p.take (i + 1) = p.take i ++ [.number text] := by
    rw [List.take_add_one, here]
    rfl
  have moreNumbers : numbers (p.take i ++ [.number text]) = numbers (p.take i) + 1 := by
    simp [numbers, Symbol.isNumber]
  have sameOperators : operators (p.take i ++ [.number text]) = operators (p.take i) := by
    simp [operators, Symbol.isOperator]
  rw [next, moreNumbers, sameOperators]
  omega

/-! ### A fold -/

theorem result_fold (p : Postfix) :
    p.fold.result =
      match (run 0 p []).result with
      | .error e => .error e
      | .ok [] => .error .nothing
      | .ok [value] => .ok value
      | .ok operands => .error (.leftover operands.length) := by
  rw [fold, Logged.result_bind]
  rcases (run 0 p []).result with e | (_ | ⟨value, _ | ⟨below, operands⟩⟩) <;> rfl

theorem fold_of_stopsFirstAt {p : Postfix} {i : Nat} {s : Symbol} (here : p[i]? = some s)
    (first : StopsFirstAt 0 p i) : p.fold.result = .error (s.fault i) := by
  have empty : StopsFirstAt ([] : List Float).length p i := first
  rw [result_fold, run_of_stopsFirstAt here 0 empty, Nat.zero_add]

/-- Where nothing stops, the verdict is by how many operands are left. -/
theorem fold_of_not_stopsAt {p : Postfix} (clear : ∀ i, ¬ StopsAt 0 p i) :
    (p = [] ∧ p.fold.result = .error .nothing) ∨
      (numbers p = operators p + 1 ∧ ∃ value, p.fold.result = .ok value) ∨
      (operators p + 1 < numbers p ∧
        p.fold.result = .error (.leftover (numbers p - operators p))) := by
  have empty : ∀ i, ¬ StopsAt ([] : List Float).length p i := clear
  obtain ⟨operands, run, height⟩ := run_of_not_stopsAt 0 empty
  rw [List.length_nil, Nat.zero_add] at height
  rw [result_fold, run]
  rcases operands with _ | ⟨value, _ | ⟨below, operands⟩⟩
  · -- No symbol can have been applied, since numbers outnumber operators behind each.
    have empty : p = [] := by
      by_contra nonempty
      have := (forall_not_stopsAt_iff.mp clear).2 p List.prefix_rfl nonempty
      simp only [List.length_nil] at height
      omega
    exact .inl ⟨empty, rfl⟩
  · simp only [List.length_singleton] at height
    exact .inr (.inl ⟨by omega, value, rfl⟩)
  · simp only [List.length_cons] at height
    refine .inr (.inr ⟨by omega, ?_⟩)
    rw [← height]
    simp

/-! ### Values do not matter -/

/-- What a symbol makes of the height of the stack, or its failure, depends on nothing but the
height and the symbol, and on a number only in so far as it can be read. -/
theorem step_alike {s s' : Symbol} (alike : s.Alike s') (position : Nat)
    {operands operands' : List Float} (same : operands.length = operands'.length) :
    (step position s operands).result.map List.length =
      (step position s' operands').result.map List.length := by
  cases alike with
  | number readable readable' =>
    obtain ⟨value, read⟩ := Option.isSome_iff_exists.mp readable
    obtain ⟨value', read'⟩ := Option.isSome_iff_exists.mp readable'
    simp [step, read, read', Logged.result_pure, Except.map, same]
  | refl =>
    cases s with
    | number text =>
      cases h : Number.ofText? text <;>
        simp [step, h, Logged.result_pure, Logged.result_fail, Except.map, same]
    | operator op =>
      rcases operands with _ | ⟨right, _ | ⟨left, operands⟩⟩ <;>
        rcases operands' with _ | ⟨right', _ | ⟨left', operands'⟩⟩ <;> try cases same
      · rfl
      · rfl
      · exact congrArg Except.ok (Nat.succ.inj same)
    | negate =>
      rcases operands with _ | ⟨operand, operands⟩ <;>
        rcases operands' with _ | ⟨operand', operands'⟩ <;> try cases same
      · rfl
      · exact congrArg Except.ok same

theorem run_alike {p p' : Postfix} (alike : List.Forall₂ Symbol.Alike p p') (position : Nat)
    {operands operands' : List Float} (same : operands.length = operands'.length) :
    (run position p operands).result.map List.length =
      (run position p' operands').result.map List.length := by
  induction alike generalizing position operands operands' with
  | nil => exact congrArg Except.ok same
  | @cons s s' p p' alike _ ih =>
    have sameStep := step_alike alike position same
    rw [result_run_cons, result_run_cons]
    rcases h : (step position s operands).result with e | next <;>
      rcases h' : (step position s' operands').result with e' | next' <;> rw [h, h'] at sameStep
    · cases sameStep
      rfl
    · cases sameStep
    · cases sameStep
    · exact ih (position + 1) (Except.ok.inj sameStep)

/-- The verdict of a fold is by the height of the stack that its run leaves. -/
theorem verdict_eq (p : Postfix) :
    (p.fold.result.map fun _ => ()) =
      ((run 0 p []).result.map List.length >>= fun height =>
        if height = 0 then .error .nothing
        else if height = 1 then .ok ()
        else .error (.leftover height)) := by
  rw [result_fold]
  rcases (run 0 p []).result with e | (_ | ⟨value, _ | ⟨below, operands⟩⟩) <;>
    simp [Except.map, Bind.bind, Except.bind]

/-! ### The verdict -/

/-- A sequence has a value if nothing stops and the counts leave one operand. -/
theorem exists_fold_eq_ok_iff {p : Postfix} :
    (∃ value, p.fold.result = .ok value) ↔
      (∀ i, ¬ StopsAt 0 p i) ∧ numbers p = operators p + 1 := by
  constructor
  · rintro ⟨value, folded⟩
    have clear : ∀ i, ¬ StopsAt 0 p i := by
      by_contra stops
      obtain ⟨i, first⟩ := exists_stopsFirstAt (not_forall_not.mp stops)
      obtain ⟨s, here, -⟩ := first.1
      rw [fold_of_stopsFirstAt here first] at folded
      cases folded
    refine ⟨clear, ?_⟩
    rcases fold_of_not_stopsAt clear with ⟨-, failed⟩ | ⟨counts, -⟩ | ⟨-, failed⟩
    · rw [failed] at folded
      cases folded
    · exact counts
    · rw [failed] at folded
      cases folded
  · rintro ⟨clear, counts⟩
    rcases fold_of_not_stopsAt clear with ⟨rfl, -⟩ | ⟨-, value⟩ | ⟨more, -⟩
    · cases counts
    · exact value
    · omega

/-- Only an empty sequence has nothing to fold. -/
theorem fold_eq_nothing_iff {p : Postfix} : p.fold.result = .error .nothing ↔ p = [] := by
  constructor
  · intro failed
    by_cases stops : ∃ i, StopsAt 0 p i
    · obtain ⟨i, first⟩ := exists_stopsFirstAt stops
      obtain ⟨s, here, -⟩ := first.1
      rw [fold_of_stopsFirstAt here first] at failed
      cases s <;> cases failed
    · rcases fold_of_not_stopsAt (not_exists.mp stops) with
        ⟨empty, -⟩ | ⟨-, value, folded⟩ | ⟨-, left⟩
      · exact empty
      · rw [folded] at failed
        cases failed
      · rw [left] at failed
        cases failed
  · rintro rfl
    rfl

/-- What the counts stop misses an operand, and it is no number. -/
theorem StopsFirstAt.fault_of_counts {p : Postfix} {i : Nat} {s : Symbol}
    (first : StopsFirstAt 0 p i) (here : p[i]? = some s)
    (few : numbers (p.take (i + 1)) ≤ operators (p.take (i + 1))) :
    s.fault i = .missingOperand s i ∧ s.text ∈ ["+", "-", "*", "/", "neg"] := by
  cases s with
  | number text => exact absurd (first.lt_of_number here) (Nat.not_lt.mpr few)
  | operator op => exact ⟨rfl, by cases op <;> decide⟩
  | negate => exact ⟨rfl, by decide⟩

/-- **The verdict of a fold is found by counting.** A sequence has a value if and only if all its
numbers can be read, every prefix has more numbers than binary operators, and the whole has exactly
one more. If the first symbol that stops is a number that cannot be read, that number is the
failure; if the counts stop it, the failure is that the symbol, an operator or a negation, misses an
operand there. Where nothing stops but the counts are not those of a value, the surplus operands are
left over; only an empty sequence has nothing to fold. And no value changes the verdict: any number
that can be read may stand for any other. -/
theorem fold_verdict (p : Postfix) :
    ((∃ value, p.fold.result = .ok value) ↔
      (∀ s ∈ p, s.Readable) ∧ (∀ q, q <+: p → q ≠ [] → operators q < numbers q) ∧
        numbers p = operators p + 1) ∧
    (∀ i, StopsFirstAt 0 p i →
      (∀ text, p[i]? = some (.number text) → Number.ofText? text = none →
        p.fold.result = .error (.invalidNumber text)) ∧
      ∀ s, p[i]? = some s → numbers (p.take (i + 1)) ≤ operators (p.take (i + 1)) →
        p.fold.result = .error (.missingOperand s i) ∧ s.text ∈ ["+", "-", "*", "/", "neg"]) ∧
    ((∀ i, ¬ StopsAt 0 p i) → p ≠ [] → numbers p ≠ operators p + 1 →
      p.fold.result = .error (.leftover (numbers p - operators p))) ∧
    (p.fold.result = .error .nothing ↔ p = []) ∧
    ∀ p' : Postfix, List.Forall₂ Symbol.Alike p p' →
      p'.fold.result.map (fun _ => ()) = p.fold.result.map fun _ => () := by
  refine ⟨?value, ?stops, ?leftover, fold_eq_nothing_iff, ?alike⟩
  case value =>
    rw [exists_fold_eq_ok_iff, forall_not_stopsAt_iff, and_assoc]
  case stops =>
    intro i first
    refine ⟨fun text here _ => fold_of_stopsFirstAt here first, fun s here few => ?_⟩
    obtain ⟨fault, sign⟩ := first.fault_of_counts here few
    rw [fold_of_stopsFirstAt here first, fault]
    exact ⟨rfl, sign⟩
  case leftover =>
    intro clear nonempty counts
    rcases fold_of_not_stopsAt clear with ⟨empty, -⟩ | ⟨same, -⟩ | ⟨-, left⟩
    · exact absurd empty nonempty
    · exact absurd same counts
    · exact left
  case alike =>
    intro p' alike
    rw [verdict_eq, verdict_eq, run_alike alike 0 rfl]

/-- A minus that finds one operand, with a bad number behind it; a bad number before a minus that
would find one; three operands left over; and a quotient of infinity and no number. -/
theorem fold_verdict_each_way :
    let one : Symbol := .number "1"
    let bad : Symbol := .number "1.2.3"
    let minus : Symbol := .operator .sub
    let short : Postfix := [one, one, minus, minus, bad]
    let spoilt : Postfix := [one, bad, minus, minus]
    let long : Postfix := [one, one, .negate, one]
    let quotient : Postfix := [.number "inf", .number "NaN", .operator .div]
    let ratio : Postfix := [one, one, .operator .div]
    (StopsFirstAt 0 short 3 ∧ short.fold.result = .error (.missingOperand minus 3)) ∧
      (StopsFirstAt 0 spoilt 1 ∧ spoilt.fold.result = .error (.invalidNumber "1.2.3")) ∧
      ((∀ i, ¬ StopsAt 0 long i) ∧ long.fold.result = .error (.leftover 3)) ∧
      (∃ value, quotient.fold.result = .ok value) ∧
      List.Forall₂ Symbol.Alike quotient ratio ∧
        ratio.fold.result.map (fun _ => ()) = quotient.fold.result.map fun _ => () := by
  intro one bad minus short spoilt long quotient ratio
  have shortStops : StopsFirstAt 0 short 3 := by decide
  have spoiltStops : StopsFirstAt 0 spoilt 1 := by decide
  have longGoesOn : ∀ i, ¬ StopsAt 0 long i
    | 0 | 1 | 2 | 3 => by decide
    | i + 4 => by simp [StopsAt, long]
  have quotientGoesOn : ∀ i, ¬ StopsAt 0 quotient i
    | 0 | 1 | 2 => by decide
    | i + 3 => by simp [StopsAt, quotient]
  have alike : List.Forall₂ Symbol.Alike quotient ratio :=
    .cons (.number (by decide) (by decide))
      (.cons (.number (by decide) (by decide)) (.cons (.refl _) .nil))
  have failsShort := (((fold_verdict short).2.1 3 shortStops).2 minus rfl (by decide)).1
  have failsSpoilt := ((fold_verdict spoilt).2.1 1 spoiltStops).1 "1.2.3" rfl (by decide)
  have failsLong := (fold_verdict long).2.2.1 longGoesOn (by decide) (by decide)
  obtain ⟨readable, prefixes⟩ := forall_not_stopsAt_iff.mp quotientGoesOn
  have value := (fold_verdict quotient).1.mpr ⟨readable, prefixes, by decide⟩
  have same := (fold_verdict quotient).2.2.2.2 ratio alike
  exact ⟨⟨shortStops, failsShort⟩, ⟨spoiltStops, failsSpoilt⟩, ⟨longGoesOn, failsLong⟩, value,
    alike, same⟩

end Postfix

end Calculator
