import Calculator.Proofs.Evaluation.Verdict
import Calculator.Proofs.Postfix.Records

/-!
What the log of an evaluation tells.

Each stage leaves its record when it is done, so the log of a text that is refused breaks off before
the stage that refuses it. Where no stage does, the records of the operations stand before that of
the fold, one for each operator and each negation of the postfix sequence and in its order.
`Expression.operations` has them by recursion on the grammar, each with the values that its operands
have in the value of the expression.

* `Expression.operations`: the operations that make up the value of an expression.
* `Expression.symbols_operations` and its like: their order.
* `Expression.evaluation_eq` and its like: the records of an evaluation.
* `evaluateLogged_records`: the whole log of a text, and that of a fold of any symbols.
-/

namespace Calculator

/-! ### The operations of an expression -/

mutual

/-- The operations of a sum, from left to right. -/
def Expression.operations : Expression → List Operation
  | .mk term tail => term.operations ++ tail.operationsAfter term.value

/-- The operations of a product. -/
def Term.operations : Term → List Operation
  | .mk factor tail => factor.operations ++ tail.operationsAfter factor.value

/-- The operations of the tail of a sum of which `left` is the part before the tail. -/
def SumTail.operationsAfter : SumTail → Float → List Operation
  | .empty, _ => []
  | .next op term tail, left =>
    term.operations ++ .binary op.operator left term.value ::
      tail.operationsAfter (op.operator.apply left term.value)

/-- The operations of the tail of a product of which `left` is the factor before the tail. The
operator comes last, with all that follows it for its right operand. -/
def ProductTail.operationsAfter : ProductTail → Float → List Operation
  | .empty, _ => []
  | .next op factor tail, left =>
    factor.operations ++ (tail.operationsAfter factor.value ++
      [.binary op.operator left (tail.valueAfter factor.value)])

/-- The operations of a group, a negation or a number. -/
def Factor.operations : Factor → List Operation
  | .group inner => inner.operations
  | .negation operand => operand.operations ++ [.negation operand.value]
  | .number _ => []

end

mutual

/-- The operations of an expression are those of its symbols, in order. -/
theorem Expression.symbols_operations : ∀ e : Expression,
    e.operations.map Operation.symbol = e.toTree.linearize.operatorSymbols
  | .mk term tail => by
    rw [Expression.linearize_mk, Postfix.operatorSymbols_append, Expression.operations,
      List.map_append, term.symbols_operations, tail.symbols_operationsAfter]

/-- The operations of a term are those of its symbols, in order. -/
theorem Term.symbols_operations : ∀ e : Term,
    e.operations.map Operation.symbol = e.toTree.linearize.operatorSymbols
  | .mk factor tail => by
    rw [Term.linearize_mk, Postfix.operatorSymbols_append, Term.operations, List.map_append,
      factor.symbols_operations, tail.symbols_operationsAfter]

/-- The operations of the tail of a sum are those of its symbols, in order. -/
theorem SumTail.symbols_operationsAfter : ∀ (e : SumTail) (left : Float),
    (e.operationsAfter left).map Operation.symbol = e.toTree.linearize.operatorSymbols
  | .empty, left => by
    rw [SumTail.linearize_empty, SumTail.operationsAfter]
    rfl
  | .next op term tail, left => by
    rw [SumTail.linearize_next, Postfix.operatorSymbols_append, SumTail.operationsAfter,
      List.map_append, term.symbols_operations, List.map_cons, tail.symbols_operationsAfter]
    rfl

/-- The operations of the tail of a product are those of its symbols, in order. -/
theorem ProductTail.symbols_operationsAfter : ∀ (e : ProductTail) (left : Float),
    (e.operationsAfter left).map Operation.symbol = e.toTree.linearize.operatorSymbols
  | .empty, left => by
    rw [ProductTail.linearize_empty, ProductTail.operationsAfter]
    rfl
  | .next op factor tail, left => by
    rw [ProductTail.linearize_next, Postfix.operatorSymbols_append,
      Postfix.operatorSymbols_append, ProductTail.operationsAfter, List.map_append,
      List.map_append, factor.symbols_operations, tail.symbols_operationsAfter]
    rfl

/-- The operations of a factor are those of its symbols, in order. -/
theorem Factor.symbols_operations : ∀ e : Factor,
    e.operations.map Operation.symbol = e.toTree.linearize.operatorSymbols
  | .group inner => by
    rw [Factor.linearize_group, Factor.operations, inner.symbols_operations]
  | .negation operand => by
    rw [Factor.linearize_negation, Postfix.operatorSymbols_append, Factor.operations,
      List.map_append, operand.symbols_operations]
    rfl
  | .number text => by
    rw [Factor.linearize_number, Factor.operations]
    rfl

end

/-! ### The records of an evaluation -/

theorem Operator.perform_eq (op : Operator) (left right : Float) :
    op.perform left right =
      ⟨[(Operation.binary op left right).record], .ok (op.apply left right)⟩ := rfl

theorem Number.negate_eq (operand : Float) :
    Number.negate operand = ⟨[(Operation.negation operand).record], .ok (-operand)⟩ := rfl

theorem Number.read_eq {text : String} (readable : (Number.ofText? text).isSome) :
    Number.read text = ⟨[], .ok (Number.valueOf text)⟩ := by
  obtain ⟨value, read⟩ := Option.isSome_iff_exists.mp readable
  simp only [Number.read, Number.valueOf, read]
  rfl

mutual

/-- Evaluating an expression leaves the records of its operations and results in its value. -/
theorem Expression.evaluation_eq : ∀ e : Expression,
    (∀ text ∈ e.toTree.numbers, (Number.ofText? text).isSome) →
      e.evaluation = ⟨e.operations.map Operation.record, .ok e.value⟩
  | .mk term tail, readable => by
    rw [Expression.numbers_mk, List.forall_mem_append] at readable
    rw [Expression.evaluation, term.evaluation_eq readable.1, Logged.bind_of_ok rfl,
      tail.evaluationAfter_eq readable.2, Expression.operations, List.map_append, Expression.value]

/-- Evaluating a term leaves the records of its operations and results in its value. -/
theorem Term.evaluation_eq : ∀ e : Term,
    (∀ text ∈ e.toTree.numbers, (Number.ofText? text).isSome) →
      e.evaluation = ⟨e.operations.map Operation.record, .ok e.value⟩
  | .mk factor tail, readable => by
    rw [Term.numbers_mk, List.forall_mem_append] at readable
    rw [Term.evaluation, factor.evaluation_eq readable.1, Logged.bind_of_ok rfl,
      tail.evaluationAfter_eq readable.2, Term.operations, List.map_append, Term.value]

/-- Evaluating the tail of a sum leaves the records of its operations, the operator before those of
the inner tail. -/
theorem SumTail.evaluationAfter_eq : ∀ (e : SumTail) {left : Float},
    (∀ text ∈ e.toTree.numbers, (Number.ofText? text).isSome) →
      e.evaluationAfter left =
        ⟨(e.operationsAfter left).map Operation.record, .ok (e.valueAfter left)⟩
  | .empty, left, _ => rfl
  | .next op term tail, left, readable => by
    rw [SumTail.numbers_next, List.forall_mem_append] at readable
    rw [SumTail.evaluationAfter, term.evaluation_eq readable.1, Logged.bind_of_ok rfl,
      Operator.perform_eq, Logged.bind_of_ok rfl, tail.evaluationAfter_eq readable.2,
      SumTail.operationsAfter, List.map_append, List.map_cons, SumTail.valueAfter]
    rfl

/-- Evaluating the tail of a product leaves the records of its operations, the operator behind those
of the inner tail. -/
theorem ProductTail.evaluationAfter_eq : ∀ (e : ProductTail) {left : Float},
    (∀ text ∈ e.toTree.numbers, (Number.ofText? text).isSome) →
      e.evaluationAfter left =
        ⟨(e.operationsAfter left).map Operation.record, .ok (e.valueAfter left)⟩
  | .empty, left, _ => rfl
  | .next op factor tail, left, readable => by
    rw [ProductTail.numbers_next, List.forall_mem_append] at readable
    rw [ProductTail.evaluationAfter, factor.evaluation_eq readable.1, Logged.bind_of_ok rfl,
      tail.evaluationAfter_eq readable.2, Logged.bind_of_ok rfl, Operator.perform_eq,
      ProductTail.operationsAfter, List.map_append, List.map_append, ProductTail.valueAfter]
    rfl

/-- Evaluating a factor leaves the records of its operations and results in its value. -/
theorem Factor.evaluation_eq : ∀ e : Factor,
    (∀ text ∈ e.toTree.numbers, (Number.ofText? text).isSome) →
      e.evaluation = ⟨e.operations.map Operation.record, .ok e.value⟩
  | .group inner, readable => by
    rw [Factor.numbers_group] at readable
    rw [Factor.evaluation, inner.evaluation_eq readable, Factor.operations, Factor.value]
  | .negation operand, readable => by
    rw [Factor.numbers_negation] at readable
    rw [Factor.evaluation, operand.evaluation_eq readable, Logged.bind_of_ok rfl,
      Number.negate_eq, Factor.operations, List.map_append, Factor.value]
    rfl
  | .number text, readable => by
    rw [Factor.numbers_number] at readable
    rw [Factor.evaluation, Number.read_eq (readable text (List.mem_singleton_self text)),
      Factor.operations, Factor.value]
    rfl

end

/-- The symbols of an expression fold to its value, with the records of its operations and then that
of the fold. -/
theorem fold_linearize_eq {e : Expression}
    (readable : ∀ text ∈ e.toTree.numbers, (Number.ofText? text).isSome) :
    e.toTree.linearize.fold =
      ⟨e.operations.map Operation.record ++ [.folded e.toTree.linearize.length e.value],
        .ok e.value⟩ := by
  rw [fold_linearize, e.evaluation_eq readable, Logged.bind_of_ok rfl]
  rfl

/-! ### The log of a text -/

theorem Logged.ofExcept_ok_bind {ε α β : Type} (a : α) (f : α → Logged ε β) :
    ofExcept (.ok a) >>= f = f a := pure_bind a f

theorem Logged.ofExcept_error_bind {ε α β : Type} (e : ε) (f : α → Logged ε β) :
    ofExcept (.error e) >>= f = ⟨[], .error e⟩ := rfl

theorem Logged.leave_bind {ε α : Type} (r : Record) (f : Unit → Logged ε α) :
    leave r >>= f = ⟨r :: (f ()).records, (f ()).result⟩ := rfl

/-- The log of a text that does not lex is empty. -/
theorem evaluateLogged_of_lex_error {text : String} {error : LexError}
    (lexed : lex text = .error error) :
    evaluateLogged text = ⟨[], .error (.malformed (.lexical error))⟩ := by
  simp only [evaluateLogged, lexed, Except.mapError, Logged.ofExcept_error_bind, Function.comp]

/-- The log of a text that lexes and does not parse has one record. -/
theorem evaluateLogged_of_parse_error {text : String} {tokens : List Token} {error : ParseError}
    (lexed : lex text = .ok tokens) (parsed : parseTokens tokens = .error error) :
    evaluateLogged text =
      ⟨[.lexed tokens.length text.utf8ByteSize], .error (.malformed (.grammatical error))⟩ := by
  simp only [evaluateLogged, lexed, parsed, Except.mapError, Logged.ofExcept_ok_bind,
    Logged.leave_bind, Logged.ofExcept_error_bind, Function.comp]

/-- The log of a text that parses has the records of all stages, with those of the operations before
the last. -/
theorem evaluateLogged_of_parse {text : String} {tokens : List Token} {e : Expression}
    (lexed : lex text = .ok tokens) (parsed : parseTokens tokens = .ok e) :
    evaluateLogged text =
      ⟨.lexed tokens.length text.utf8ByteSize :: .parsed tokens.length e.toTree.nodeCount ::
          .linearized text e.toTree.linearize :: (e.operations.map Operation.record ++
            [.folded e.toTree.linearize.length e.value]), .ok e.value⟩ := by
  obtain ⟨-, digits⟩ := parse_eq_ok_iff.mp (parse_eq_ok.mpr ⟨tokens, lexed, parsed⟩)
  have readable : ∀ number ∈ e.toTree.numbers, (Number.ofText? number).isSome := by
    intro number member
    rw [Number.ofText?_of_isDigits (digits number member)]
    rfl
  simp only [evaluateLogged, lexed, parsed, Except.mapError, Logged.ofExcept_ok_bind,
    Logged.leave_bind, fold_linearize_eq readable, Logged.mapError]

/-- **The log tells what happened.** A text that does not lex leaves no record, and one that lexes
and does not parse only that of its tokens. For a text that parses, the records of lexing, parsing
and flattening are followed by one for each operation, in the order of the symbols and with the
operands that the value of the expression has there, and by that of the fold with the value that is
returned. A fold of any symbols leaves a record for each that is no number and stands before the
first one that cannot be applied, and one of its own if it succeeds. -/
theorem evaluateLogged_records :
    (∀ text,
      match lex text with
      | .error _ => (evaluateLogged text).records = []
      | .ok tokens =>
        let lexed := "lexed " ++ toString tokens.length ++ " tokens from " ++
          toString text.utf8ByteSize ++ " bytes"
        match parseTokens tokens with
        | .error _ => (evaluateLogged text).records.map Record.line = [(.debug, lexed)]
        | .ok e =>
          let symbols := e.toTree.linearize
          let parsed := "parsed " ++ toString tokens.length ++ " tokens into a tree of " ++
            toString e.toTree.nodeCount ++ " nodes"
          let linearized := "linearized " ++ Text.quote text ++ " to `" ++ symbols.text ++ "`"
          let folded := "folded " ++ toString symbols.length ++ " symbols to " ++
            Number.plain e.value
          (evaluateLogged text).records.map Record.line =
              (.debug, lexed) :: (.debug, parsed) :: (.debug, linearized) ::
                (e.operations.map (fun operation => (.trace, operation.words)) ++
                  [(.debug, folded)]) ∧
            (evaluateLogged text).records.drop 3 =
              e.operations.map Operation.record ++ [.folded symbols.length e.value] ∧
            e.operations.map Operation.symbol = symbols.operatorSymbols ∧
            evaluate text = .ok e.value) ∧
    ∀ p : Postfix,
      (∀ i, Postfix.StopsFirstAt 0 p i →
        ∃ s ∈ p[i]?, ∃ operations : List Operation,
          p.fold = ⟨operations.map Operation.record, .error (s.fault i)⟩ ∧
            operations.map Operation.symbol = Postfix.operatorSymbols (p.take i)) ∧
      ((∀ i, ¬ Postfix.StopsAt 0 p i) →
        ∃ operations : List Operation,
          (p.fold.records = operations.map Operation.record ++
            match p.fold.result with
            | .ok value => [.folded p.length value]
            | .error _ => []) ∧
          operations.map Operation.symbol = p.operatorSymbols) := by
  refine ⟨?text, ?symbols⟩
  case symbols =>
    intro p
    exact ⟨fun i => Postfix.fold_eq_of_stopsFirstAt, Postfix.exists_operations_fold⟩
  case text =>
    intro text
    cases lexed : lex text with
    | error error => rw [evaluateLogged_of_lex_error lexed]
    | ok tokens =>
      dsimp only
      cases parsed : parseTokens tokens with
      | error error =>
        rw [evaluateLogged_of_parse_error lexed parsed]
        rfl
      | ok e =>
        dsimp only
        rw [evaluate, evaluateLogged_of_parse lexed parsed]
        refine ⟨?_, rfl, e.symbols_operations, rfl⟩
        simp only [List.map_cons, List.map_append, List.map_map, Function.comp_def,
          Operation.line_record, List.map_nil]
        rfl

/-- A negated group in a product that a sum goes on from, and a minus that finds one operand where
another minus has found two. -/
theorem evaluateLogged_records_negated_group :
    let one : Symbol := .number "1"
    let minus : Symbol := .operator .sub
    (evaluateLogged "20*-(3-4)+5").records.map Record.line =
        [(.debug, "lexed 10 tokens from 11 bytes"),
          (.debug, "parsed 10 tokens into a tree of 21 nodes"),
          (.debug, "linearized \"20*-(3-4)+5\" to `20 3 4 - neg * 5 +`"),
          (.trace, "3 - 4 = -1"), (.trace, "neg -1 = 1"), (.trace, "20 * 1 = 20"),
          (.trace, "20 + 5 = 25"), (.debug, "folded 8 symbols to 25")] ∧
      Postfix.StopsFirstAt 0 [one, one, minus, minus, one] 3 ∧
      ∃ operations : List Operation,
        Postfix.fold [one, one, minus, minus, one] =
            ⟨operations.map Operation.record, .error (.missingOperand minus 3)⟩ ∧
          operations.map Operation.symbol = [minus] := by
  intro one minus
  let tokens : List Token :=
    [⟨.number, "20", ⟨0, 2⟩⟩, ⟨.star, "*", ⟨2, 1⟩⟩, ⟨.minus, "-", ⟨3, 1⟩⟩,
      ⟨.openParen, "(", ⟨4, 1⟩⟩, ⟨.number, "3", ⟨5, 1⟩⟩, ⟨.minus, "-", ⟨6, 1⟩⟩,
      ⟨.number, "4", ⟨7, 1⟩⟩, ⟨.closeParen, ")", ⟨8, 1⟩⟩, ⟨.plus, "+", ⟨9, 1⟩⟩,
      ⟨.number, "5", ⟨10, 1⟩⟩]
  let e : Expression :=
    .mk
      (.mk (.number "20")
        (.next .times
          (.negation (.group (.mk (.mk (.number "3") .empty)
            (.next .minus (.mk (.number "4") .empty) .empty))))
          .empty))
      (.next .plus (.mk (.number "5") .empty) .empty)
  have lexed : lex "20*-(3-4)+5" = .ok tokens := by decide +kernel
  have parsed : parseTokens tokens = .ok e := parseTokens_of_spells (by decide)
  have log := evaluateLogged_records.1 "20*-(3-4)+5"
  rw [lexed] at log
  dsimp only at log
  rw [parsed] at log
  have stops : Postfix.StopsFirstAt 0 [one, one, minus, minus, one] 3 := by decide
  obtain ⟨s, here, operations, folded, symbols⟩ := (evaluateLogged_records.2 _).1 3 stops
  cases here
  exact ⟨log.1.trans (by decide +kernel), stops, operations, folded, symbols⟩

end Calculator
