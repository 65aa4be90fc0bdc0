import Calculator.Proofs.Postfix.Counting

/-!
The structure of a postfix sequence.

A sequence that has a value is one operand, and there are three ways to make an operand: a number
that can be read, an operand with a negation behind it, and two operands with an operator behind
them. `Postfix.IsOperand` says so of sequences. `Formula` is the tree of such a construction, with
`Formula.symbols` for the sequence that is constructed.

Nothing in a sequence marks where an operand begins. It can be told from the end all the same: the
last symbol says how many operands stand before it, and each of them ends where the next begins. So
two formulas whose symbols stand at the end of one sequence are the same, whatever stands before.

* `Formula.append_symbols_inj`: a formula is known from the end of a sequence.
* `Formula.run_symbols`: an operand puts its value on the stack and leaves what is below alone.
* `Postfix.exists_formulas_run`: what a run leaves on the stack are the values of formulas whose
  symbols are, one after the other, those of the run.
* `Postfix.fold_decomposition`: the sequences that have a value, and which value.
-/

namespace Calculator

/-! ### Formulas -/

/-- How an operand is made from symbols. -/
inductive Formula where
  | number (text : String)
  | negation (operand : Formula)
  | binary (op : Operator) (left right : Formula)
deriving DecidableEq, Repr

namespace Formula

/-- The symbols of an operand. Those of the left operand come first. -/
def symbols : Formula → Postfix
  | .number text => [.number text]
  | .negation operand => operand.symbols ++ [.negate]
  | .binary op left right => left.symbols ++ right.symbols ++ [.operator op]

/-- All numbers of the formula can be read. -/
def Readable : Formula → Prop
  | .number text => (Symbol.number text).Readable
  | .negation operand => operand.Readable
  | .binary _ left right => left.Readable ∧ right.Readable

/-- The value of a formula; a number that cannot be read counts as zero. -/
def value : Formula → Float
  | .number text => (Number.ofText? text).getD 0
  | .negation operand => -operand.value
  | .binary op left right => op.apply left.value right.value

/-- Two sequences with a symbol at the end of each. -/
theorem append_singleton_inj {p q r t : Postfix} {s s' : Symbol}
    (h : p ++ (q ++ [s]) = r ++ (t ++ [s'])) : p ++ q = r ++ t ∧ s = s' := by
  rw [← List.append_assoc, ← List.append_assoc] at h
  obtain ⟨before, last⟩ := List.append_inj' h rfl
  exact ⟨before, List.singleton_inj.mp last⟩

/-- **A formula is known from the end of a sequence**, and so is what stands before its symbols. -/
theorem append_symbols_inj : ∀ {f g : Formula} {p q : Postfix},
    p ++ f.symbols = q ++ g.symbols → p = q ∧ f = g
  | .number text, .number text', p, q, h => by
    obtain ⟨before, last⟩ := append_singleton_inj (q := []) (t := []) h
    rw [List.append_nil, List.append_nil] at before
    cases last
    exact ⟨before, rfl⟩
  | .negation operand, .negation operand', p, q, h => by
    obtain ⟨before, -⟩ := append_singleton_inj h
    obtain ⟨same, rfl⟩ := append_symbols_inj before
    exact ⟨same, rfl⟩
  | .binary op left right, .binary op' left' right', p, q, h => by
    obtain ⟨both, last⟩ := append_singleton_inj h
    cases last
    -- The right operand is at the end, with the left one before it.
    rw [← List.append_assoc, ← List.append_assoc] at both
    obtain ⟨before, rfl⟩ := append_symbols_inj both
    obtain ⟨same, rfl⟩ := append_symbols_inj before
    exact ⟨same, rfl⟩
  | .number _, .negation _, _, _, h | .number _, .binary .., _, _, h => by
    cases (append_singleton_inj (q := []) h).2
  | .negation _, .number _, _, _, h | .binary .., .number _, _, _, h => by
    cases (append_singleton_inj (t := []) h).2
  | .negation _, .binary .., _, _, h | .binary .., .negation _, _, _, h => by
    cases (append_singleton_inj h).2

/-- No two formulas have the same symbols. -/
theorem symbols_injective {f g : Formula} (h : f.symbols = g.symbols) : f = g :=
  (append_symbols_inj (p := []) (q := []) h).2

end Formula

/-! ### Operands -/

namespace Postfix

/-- The sequences that are one operand. -/
inductive IsOperand : Postfix → Prop where
  | number {text : String} (readable : (Number.ofText? text).isSome) : IsOperand [.number text]
  | negate {p : Postfix} : IsOperand p → IsOperand (p ++ [.negate])
  | operator {p q : Postfix} (op : Operator) :
      IsOperand p → IsOperand q → IsOperand (p ++ q ++ [.operator op])

/-- An operand is a sequence with a formula. -/
theorem isOperand_iff {p : Postfix} :
    p.IsOperand ↔ ∃ f : Formula, f.Readable ∧ f.symbols = p := by
  constructor
  · intro operand
    induction operand with
    | @number text readable => exact ⟨.number text, readable, rfl⟩
    | negate _ ih =>
      obtain ⟨f, readable, rfl⟩ := ih
      exact ⟨.negation f, readable, rfl⟩
    | operator op _ _ ihLeft ihRight =>
      obtain ⟨f, readable, rfl⟩ := ihLeft
      obtain ⟨g, readable', rfl⟩ := ihRight
      exact ⟨.binary op f g, ⟨readable, readable'⟩, rfl⟩
  · rintro ⟨f, readable, rfl⟩
    induction f with
    | number text => exact .number readable
    | negation f ih => exact .negate (ih readable)
    | binary op f g ihLeft ihRight =>
      exact .operator op (ihLeft readable.1) (ihRight readable.2)

end Postfix

/-! ### Running the symbols of a formula -/

theorem Postfix.result_run_append (p q : Postfix) (position : Nat) (operands : List Float) :
    (run position (p ++ q) operands).result =
      (run position p operands).result >>= fun operands' =>
        (run (position + p.length) q operands').result := by
  rw [run_append, Logged.result_bind]

/-- **An operand puts its value on the stack** and leaves what is below alone. -/
theorem Formula.run_symbols {f : Formula} (readable : f.Readable) (position : Nat)
    (operands : List Float) :
    (Postfix.run position f.symbols operands).result = .ok (f.value :: operands) := by
  induction f generalizing position operands with
  | number text =>
    obtain ⟨value, read⟩ := Option.isSome_iff_exists.mp readable
    rw [symbols, Postfix.result_run_cons]
    simp [Postfix.step, Postfix.run, Formula.value, read, Logged.result_pure, Bind.bind,
      Except.bind]
  | negation operand ih =>
    rw [symbols, Postfix.result_run_append, ih readable]
    rfl
  | binary op left right ihLeft ihRight =>
    rw [symbols, Postfix.result_run_append, Postfix.result_run_append, ihLeft readable.1]
    dsimp only [Bind.bind, Except.bind]
    rw [ihRight readable.2]
    rfl

namespace Postfix

/-- The symbols of formulas whose values lie on a stack, those of the lowest one first. -/
def ofStack (formulas : List Formula) : Postfix := formulas.reverse.flatMap Formula.symbols

theorem ofStack_cons (f : Formula) (formulas : List Formula) :
    ofStack (f :: formulas) = ofStack formulas ++ f.symbols := by
  simp [ofStack]

/-- A symbol that is applied makes a formula of those whose values it takes off the stack. -/
theorem exists_formulas_step {position : Nat} {s : Symbol} {formulas : List Formula}
    {operands : List Float} (readable : ∀ f ∈ formulas, f.Readable)
    (applied : (step position s (formulas.map Formula.value)).result = .ok operands) :
    ∃ formulas' : List Formula, (∀ f ∈ formulas', f.Readable) ∧
      formulas'.map Formula.value = operands ∧ ofStack formulas' = ofStack formulas ++ [s] := by
  cases s with
  | number text =>
    cases read : Number.ofText? text with
    | none =>
      simp only [step, read] at applied
      cases applied
    | some value =>
      simp only [step, read] at applied
      cases applied
      have readableNumber : (Formula.number text).Readable := by
        rw [Formula.Readable, Symbol.Readable, read]
        rfl
      refine ⟨.number text :: formulas, List.forall_mem_cons.mpr ⟨readableNumber, readable⟩, ?_,
        ofStack_cons _ _⟩
      rw [List.map_cons, Formula.value, read]
      rfl
  | operator op =>
    rcases formulas with _ | ⟨right, _ | ⟨left, formulas⟩⟩
    · cases applied
    · cases applied
    · cases applied
      simp only [List.forall_mem_cons] at readable
      obtain ⟨readableRight, readableLeft, readable⟩ := readable
      refine ⟨.binary op left right :: formulas,
        List.forall_mem_cons.mpr ⟨⟨readableLeft, readableRight⟩, readable⟩, rfl, ?_⟩
      simp only [ofStack_cons, Formula.symbols, List.append_assoc]
  | negate =>
    rcases formulas with _ | ⟨operand, formulas⟩
    · cases applied
    · cases applied
      obtain ⟨readableOperand, readable⟩ := List.forall_mem_cons.mp readable
      refine ⟨.negation operand :: formulas,
        List.forall_mem_cons.mpr ⟨readableOperand, readable⟩, rfl, ?_⟩
      simp only [ofStack_cons, Formula.symbols, List.append_assoc]

/-- **What a run leaves on the stack are values of formulas**, and the symbols of these are what was
there before and the symbols of the run. -/
theorem exists_formulas_run {p : Postfix} {position : Nat} {formulas : List Formula}
    {operands : List Float} (readable : ∀ f ∈ formulas, f.Readable)
    (ran : (run position p (formulas.map Formula.value)).result = .ok operands) :
    ∃ formulas' : List Formula, (∀ f ∈ formulas', f.Readable) ∧
      formulas'.map Formula.value = operands ∧ ofStack formulas' = ofStack formulas ++ p := by
  induction p generalizing position formulas with
  | nil =>
    cases ran
    exact ⟨formulas, readable, rfl, (List.append_nil _).symm⟩
  | cons s p ih =>
    rw [result_run_cons] at ran
    cases applied : (step position s (formulas.map Formula.value)).result with
    | error error =>
      rw [applied] at ran
      cases ran
    | ok next =>
      rw [applied] at ran
      obtain ⟨stepped, readableNext, rfl, symbols⟩ := exists_formulas_step readable applied
      obtain ⟨formulas', readable', values, symbols'⟩ := ih readableNext ran
      refine ⟨formulas', readable', values, ?_⟩
      rw [symbols', symbols, List.append_assoc, List.singleton_append]

/-! ### Folding -/

/-- A sequence has a value if its run leaves that and nothing else. -/
theorem fold_eq_ok_iff {p : Postfix} {value : Float} :
    p.fold.result = .ok value ↔ (run 0 p []).result = .ok [value] := by
  rw [result_fold]
  rcases (run 0 p []).result with e | (_ | ⟨first, _ | ⟨below, operands⟩⟩) <;> simp

/-- **The sequences that have a value are those with a formula**, and the value is that of the
formula. -/
theorem fold_eq_ok_iff_formula {p : Postfix} {value : Float} :
    p.fold.result = .ok value ↔
      ∃ f : Formula, f.Readable ∧ f.symbols = p ∧ f.value = value := by
  rw [fold_eq_ok_iff]
  constructor
  · intro ran
    -- The run begins with the values of no formulas.
    change (run 0 p ([].map Formula.value)).result = .ok [value] at ran
    obtain ⟨formulas, readable, values, symbols⟩ := exists_formulas_run (by simp) ran
    obtain ⟨f, rfl, value⟩ := List.map_eq_singleton_iff.mp values
    rw [ofStack_cons] at symbols
    exact ⟨f, readable f List.mem_cons_self, symbols, value⟩
  · rintro ⟨f, readable, rfl, rfl⟩
    exact f.run_symbols readable 0 []

/-- Two operands with an operator behind them are known from the sequence that they make. -/
theorem IsOperand.operator_inj {p q p' q' : Postfix} {op op' : Operator} (left : p.IsOperand)
    (right : q.IsOperand) (left' : p'.IsOperand) (right' : q'.IsOperand)
    (same : p ++ q ++ [.operator op] = p' ++ q' ++ [.operator op']) :
    p = p' ∧ q = q' ∧ op = op' := by
  obtain ⟨f, -, rfl⟩ := isOperand_iff.mp left
  obtain ⟨g, -, rfl⟩ := isOperand_iff.mp right
  obtain ⟨f', -, rfl⟩ := isOperand_iff.mp left'
  obtain ⟨g', -, rfl⟩ := isOperand_iff.mp right'
  have formulas : Formula.binary op f g = .binary op' f' g' := Formula.symbols_injective same
  cases formulas
  exact ⟨rfl, rfl, rfl⟩

/-- **Which sequences have a value, and which value.** A sequence has a value if and only if it is
an operand: a number that can be read, an operand and a negation, or two operands and an operator.
It is so in one way only: it has one formula, whose value is that of the sequence, and where it is
two operands and an operator, no other two make the same sequence. The value of an operand and a
negation is that of the operand, negated. The value of two operands and an operator is that of the
operator on the two values, of which that of the earlier operand is the left one. -/
theorem fold_decomposition (p : Postfix) :
    ((∃ value, p.fold.result = .ok value) ↔ p.IsOperand) ∧
    (p.IsOperand → ∃ f : Formula, f.Readable ∧ f.symbols = p ∧ p.fold.result = .ok f.value ∧
      ∀ g : Formula, g.symbols = p → g = f) ∧
    (∀ (q p' q' : Postfix) (op op' : Operator), p.IsOperand → q.IsOperand → p'.IsOperand →
      q'.IsOperand → p ++ q ++ [.operator op] = p' ++ q' ++ [.operator op'] →
        p = p' ∧ q = q' ∧ op = op') ∧
    ∀ (q : Postfix) (x y : Float), p.fold.result = .ok x → q.fold.result = .ok y →
      (fold (p ++ [.negate])).result = .ok (-x) ∧
        ∀ op : Operator, (fold (p ++ q ++ [.operator op])).result = .ok (op.apply x y) := by
  refine ⟨?verdict, ?formula, ?blocks, ?values⟩
  case verdict =>
    simp only [fold_eq_ok_iff_formula, isOperand_iff]
    constructor
    · rintro ⟨_, f, readable, symbols, -⟩
      exact ⟨f, readable, symbols⟩
    · rintro ⟨f, readable, symbols⟩
      exact ⟨f.value, f, readable, symbols, rfl⟩
  case formula =>
    intro operand
    obtain ⟨f, readable, rfl⟩ := isOperand_iff.mp operand
    exact ⟨f, readable, rfl, fold_eq_ok_iff_formula.mpr ⟨f, readable, rfl, rfl⟩,
      fun g same => Formula.symbols_injective same⟩
  case blocks =>
    intro q p' q' op op' left right left' right' same
    exact left.operator_inj right left' right' same
  case values =>
    intro q x y left right
    obtain ⟨f, readable, rfl, rfl⟩ := fold_eq_ok_iff_formula.mp left
    obtain ⟨g, readable', rfl, rfl⟩ := fold_eq_ok_iff_formula.mp right
    exact ⟨fold_eq_ok_iff_formula.mpr ⟨.negation f, readable, rfl, rfl⟩, fun op =>
      fold_eq_ok_iff_formula.mpr ⟨.binary op f g, ⟨readable, readable'⟩, rfl, rfl⟩⟩

/-- A difference divided by a negated number. -/
theorem fold_decomposition_quotient :
    let difference : Postfix := [.number "9", .number "4", .operator .sub]
    let negative : Postfix := [.number "2", .negate]
    (difference.fold.result = .ok 5.0 ∧ negative.fold.result = .ok (-2.0) ∧
      (fold (difference ++ [.negate])).result = .ok (-5.0) ∧
      (fold (difference ++ negative ++ [.operator .div])).result = .ok (-2.5)) ∧
    difference.IsOperand ∧
      (∃ f : Formula, f.Readable ∧ f.symbols = difference ∧
        difference.fold.result = .ok f.value ∧ ∀ g : Formula, g.symbols = difference → g = f) ∧
      ∀ q op, q.IsOperand →
        difference ++ negative ++ [.operator .div] = difference ++ q ++ [.operator op] →
        negative = q := by
  intro difference negative
  have five : difference.fold.result = .ok 5.0 := by decide +kernel
  have minusTwo : negative.fold.result = .ok (-2.0) := by decide +kernel
  have quotient : Operator.div.apply 5.0 (-2.0) = -2.5 := by decide +kernel
  obtain ⟨verdict, formula, blocks, values⟩ := fold_decomposition difference
  obtain ⟨negated, divided⟩ := values negative _ _ five minusTwo
  have operand : difference.IsOperand := verdict.mp ⟨_, five⟩
  have operand' : negative.IsOperand := (fold_decomposition negative).1.mp ⟨_, minusTwo⟩
  refine ⟨⟨five, minusTwo, negated, quotient ▸ divided .div⟩, operand, formula operand, ?_⟩
  intro q op other same
  exact (blocks negative difference q .div op operand operand' operand other same).2.1

end Postfix

end Calculator
