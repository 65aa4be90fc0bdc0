import Calculator.Proofs.Postfix.Counting

/-!
The records that a fold leaves.

Every operator and every negation that is applied leaves a record of the operation, numbers leave
none, and neither does a symbol that cannot be applied. So the records tell how far a fold has come:
there is one for each symbol that is no number, in order, up to the first that stops.

* `Operation`: an operator or a negation, together with its operands.
* `Postfix.exists_operations_run`: the records of a run are those of the symbols it applies.
* `Postfix.fold_eq_of_stopsFirstAt`, `Postfix.exists_operations_fold`: the records of a fold that a
  symbol stops, and of one that goes through.
-/

namespace Calculator

/-! ### Operations -/

/-- An operator or a negation with its operands. -/
inductive Operation where
  | binary (op : Operator) (left right : Float)
  | negation (operand : Float)

namespace Operation

/-- The symbol that stands for the operation. -/
def symbol : Operation → Symbol
  | .binary op _ _ => .operator op
  | .negation _ => .negate

/-- The record of the operation. -/
def record : Operation → Record
  | .binary op left right => .combined op left right (op.apply left right)
  | .negation operand => .negated operand (-operand)

/-- The operation and its value in words. -/
def words : Operation → String
  | .binary op left right =>
    Number.plain left ++ " " ++ op.sign ++ " " ++ Number.plain right ++ " = " ++
      Number.plain (op.apply left right)
  | .negation operand => "neg " ++ Number.plain operand ++ " = " ++ Number.plain (-operand)

end Operation

/-- A record as a line of the log: how much it matters, and what it says. -/
def Record.line (r : Record) : Level × String := (r.level, r.message)

theorem Operation.line_record (operation : Operation) :
    operation.record.line = (.trace, operation.words) := by
  cases operation <;> rfl

/-! ### The records of a run and of a fold -/

namespace Postfix

/-- The symbols of a sequence that are no numbers. -/
def operatorSymbols (p : Postfix) : Postfix := p.filter (!·.isNumber)

theorem operatorSymbols_append (p q : Postfix) :
    operatorSymbols (p ++ q) = operatorSymbols p ++ operatorSymbols q := List.filter_append p q

/-- A number leaves no record, whether it can be read or not. -/
theorem records_step_number (position : Nat) (text : String) (operands : List Float) :
    (step position (.number text) operands).records = [] := by
  simp only [step]
  cases Number.ofText? text <;> rfl

/-- A symbol that cannot be applied leaves no record. -/
theorem records_step_of_error {position : Nat} {s : Symbol} {operands : List Float}
    {error : FoldError} (failed : (step position s operands).result = .error error) :
    (step position s operands).records = [] := by
  cases s with
  | number text => exact records_step_number position text operands
  | operator op =>
    rcases operands with _ | ⟨right, _ | ⟨left, operands⟩⟩
    · rfl
    · rfl
    · cases failed
  | negate =>
    rcases operands with _ | ⟨operand, operands⟩
    · rfl
    · cases failed

/-- A symbol that is applied leaves the record of its operation, and a number leaves none. -/
theorem exists_operations_step {position : Nat} {s : Symbol} {operands operands' : List Float}
    (applied : (step position s operands).result = .ok operands') :
    ∃ operations : List Operation,
      (step position s operands).records = operations.map Operation.record ∧
        operations.map Operation.symbol = operatorSymbols [s] := by
  cases s with
  | number text => exact ⟨[], records_step_number position text operands, rfl⟩
  | operator op =>
    rcases operands with _ | ⟨right, _ | ⟨left, operands⟩⟩
    · cases applied
    · cases applied
    · exact ⟨[.binary op left right], rfl, rfl⟩
  | negate =>
    rcases operands with _ | ⟨operand, operands⟩
    · cases applied
    · exact ⟨[.negation operand], rfl, rfl⟩

/-- **The records of a run are those of the symbols it applies**, up to the first that stops. -/
theorem exists_operations_run {p : Postfix} {n : Nat} (position : Nat) {operands : List Float}
    (before : ∀ j < n, ¬ StopsAt operands.length p j)
    (here : n = p.length ∨ StopsAt operands.length p n) :
    ∃ operations : List Operation,
      (run position p operands).records = operations.map Operation.record ∧
        operations.map Operation.symbol = operatorSymbols (p.take n) := by
  induction p generalizing n position operands with
  | nil => exact ⟨[], rfl, by rw [List.take_nil]; rfl⟩
  | cons s p ih =>
    rcases step_cases position s p operands with ⟨now, failed⟩ | ⟨notNow, operands', applied, level⟩
    · have atStart : n = 0 := by
        by_contra later
        exact before 0 (Nat.pos_of_ne_zero later) now
      subst atStart
      refine ⟨[], ?_, rfl⟩
      rw [run, Logged.bind_of_error failed]
      exact records_step_of_error failed
    · cases n with
      | zero =>
        rcases here with none | stops
        · cases none
        · exact absurd stops notNow
      | succ n =>
        -- From the height that the first symbol leaves, the others stop one position earlier.
        obtain ⟨first, records, symbols⟩ := exists_operations_step applied
        obtain ⟨later, recordsLater, symbolsLater⟩ := ih (position + 1)
          (fun j earlier => mt (stopsAt_succ level).mpr (before (j + 1) (Nat.succ_lt_succ earlier)))
          (here.imp Nat.succ.inj (stopsAt_succ level).mp)
        refine ⟨first ++ later, ?_, ?_⟩
        · rw [run, Logged.bind_of_ok applied, List.map_append, ← records, ← recordsLater]
        · rw [List.map_append, symbols, symbolsLater, List.take_succ_cons]
          exact (operatorSymbols_append [s] (p.take n)).symm

/-- A fold leaves the records of its run and, if it succeeds, one of its own. -/
theorem records_fold (p : Postfix) :
    p.fold.records = (run 0 p []).records ++
      match p.fold.result with
      | .ok value => [.folded p.length value]
      | .error _ => [] := by
  rw [result_fold]
  cases ran : (run 0 p []).result with
  | error error =>
    rw [fold, Logged.bind_of_error ran]
    exact (List.append_nil _).symm
  | ok operands =>
    rw [fold, Logged.bind_of_ok ran]
    rcases operands with _ | ⟨value, _ | ⟨below, operands⟩⟩ <;> rfl

/-- A fold that fails at a symbol leaves the records of the symbols before. -/
theorem fold_eq_of_stopsFirstAt {p : Postfix} {i : Nat} (first : StopsFirstAt 0 p i) :
    ∃ s ∈ p[i]?, ∃ operations : List Operation,
      p.fold = ⟨operations.map Operation.record, .error (s.fault i)⟩ ∧
        operations.map Operation.symbol = operatorSymbols (p.take i) := by
  have empty : StopsFirstAt ([] : List Float).length p i := first
  obtain ⟨operations, records, symbols⟩ := exists_operations_run 0 empty.2 (.inr empty.1)
  obtain ⟨s, here, -⟩ := first.1
  have failed := fold_of_stopsFirstAt here first
  have recordsFold : p.fold.records = operations.map Operation.record := by
    rw [records_fold, failed, records, List.append_nil]
  refine ⟨s, here, operations, ?_, symbols⟩
  rw [← recordsFold, ← failed]

/-- A fold that applies all symbols leaves the records of all of them, before its own. -/
theorem exists_operations_fold {p : Postfix} (clear : ∀ i, ¬ StopsAt 0 p i) :
    ∃ operations : List Operation,
      (p.fold.records = operations.map Operation.record ++
        match p.fold.result with
        | .ok value => [.folded p.length value]
        | .error _ => []) ∧
      operations.map Operation.symbol = p.operatorSymbols := by
  have empty : ∀ i < p.length, ¬ StopsAt ([] : List Float).length p i := fun i _ => clear i
  obtain ⟨operations, records, symbols⟩ := exists_operations_run 0 empty (.inl rfl)
  rw [List.take_length] at symbols
  exact ⟨operations, by rw [records_fold, records], symbols⟩

end Postfix

end Calculator
