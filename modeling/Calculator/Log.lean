import Calculator.Number.Text
import Calculator.Postfix

/-!
The log of an evaluation.

Each stage of an evaluation leaves a record when it is done, and each operation on operands leaves
one as it happens. A computation with a log yields the records it left, in order, together with its
result; a failure keeps the records left before it.
-/

namespace Calculator

/-- How much a record matters: a stage of the evaluation or a single operation. -/
inductive Level where
  | debug
  | trace
deriving DecidableEq, Repr

/-- What an evaluation says about itself. -/
inductive Record where
  | lexed (tokens bytes : Nat)
  | parsed (tokens nodes : Nat)
  | linearized (expression : String) (symbols : Postfix)
  | combined (op : Operator) (left right value : Float)
  | negated (operand value : Float)
  | folded (symbols : Nat) (value : Float)

namespace Record

/-- The level of a record. -/
def level : Record → Level
  | .combined .. => .trace
  | .negated .. => .trace
  | _ => .debug

/-- A record in words. -/
def message : Record → String
  | .lexed tokens bytes =>
    "lexed " ++ toString tokens ++ " tokens from " ++ toString bytes ++ " bytes"
  | .parsed tokens nodes =>
    "parsed " ++ toString tokens ++ " tokens into a tree of " ++ toString nodes ++ " nodes"
  | .linearized expression symbols =>
    "linearized " ++ Text.quote expression ++ " to `" ++ symbols.text ++ "`"
  | .combined op left right value =>
    Number.plain left ++ " " ++ op.sign ++ " " ++ Number.plain right ++ " = " ++ Number.plain value
  | .negated operand value =>
    "neg " ++ Number.plain operand ++ " = " ++ Number.plain value
  | .folded symbols value =>
    "folded " ++ toString symbols ++ " symbols to " ++ Number.plain value

end Record

/-- A result, or an error, and the records left on the way to it. -/
structure Logged (ε α : Type) where
  records : List Record
  result : Except ε α

namespace Logged

variable {ε ε' α β : Type}

/-- Leaves one record. -/
def leave (r : Record) : Logged ε Unit := ⟨[r], .ok ()⟩

/-- An error without records. -/
def fail (e : ε) : Logged ε α := ⟨[], .error e⟩

/-- A result without records. -/
def ofExcept (r : Except ε α) : Logged ε α := ⟨[], r⟩

/-- The same with another kind of error. -/
def mapError (f : ε → ε') (x : Logged ε α) : Logged ε' α := ⟨x.records, x.result.mapError f⟩

instance : Monad (Logged ε) where
  pure a := ⟨[], .ok a⟩
  bind x f :=
    match x.result with
    | .error e => ⟨x.records, .error e⟩
    | .ok a => ⟨x.records ++ (f a).records, (f a).result⟩

theorem bind_of_ok {x : Logged ε α} {a : α} (h : x.result = .ok a) (f : α → Logged ε β) :
    x >>= f = ⟨x.records ++ (f a).records, (f a).result⟩ := by
  show (match x.result with
    | .error e => (⟨x.records, .error e⟩ : Logged ε β)
    | .ok a => ⟨x.records ++ (f a).records, (f a).result⟩) = _
  rw [h]

theorem bind_of_error {x : Logged ε α} {e : ε} (h : x.result = .error e) (f : α → Logged ε β) :
    x >>= f = ⟨x.records, .error e⟩ := by
  show (match x.result with
    | .error e => (⟨x.records, .error e⟩ : Logged ε β)
    | .ok a => ⟨x.records ++ (f a).records, (f a).result⟩) = _
  rw [h]

instance : LawfulMonad (Logged ε) := LawfulMonad.mk' _
  (by
    rintro α ⟨records, result⟩
    cases result with
    | error e => rfl
    | ok a =>
      show Logged.mk (records ++ []) (.ok a) = _
      rw [List.append_nil])
  (fun a f => by
    show Logged.mk ([] ++ (f a).records) (f a).result = f a
    rw [List.nil_append])
  (by
    rintro α β γ ⟨records, result⟩ f g
    cases result with
    | error e => rfl
    | ok a =>
      rw [bind_of_ok (a := a) rfl]
      cases h : (f a).result with
      | error e => rw [bind_of_error rfl, bind_of_ok rfl, bind_of_error h]
      | ok b => rw [bind_of_ok rfl, bind_of_ok rfl, bind_of_ok h, List.append_assoc])

theorem result_pure (a : α) : (pure a : Logged ε α).result = .ok a := rfl

theorem result_leave (r : Record) : (leave r : Logged ε Unit).result = .ok () := rfl

theorem result_fail (e : ε) : (fail e : Logged ε α).result = .error e := rfl

theorem result_ofExcept (r : Except ε α) : (ofExcept r).result = r := rfl

theorem result_mapError (f : ε → ε') (x : Logged ε α) :
    (x.mapError f).result = x.result.mapError f := rfl

theorem result_bind (x : Logged ε α) (f : α → Logged ε β) :
    (x >>= f).result = x.result >>= fun a => (f a).result := by
  cases h : x.result with
  | error e => rw [bind_of_error h]; rfl
  | ok a => rw [bind_of_ok h]; rfl

end Logged

end Calculator
