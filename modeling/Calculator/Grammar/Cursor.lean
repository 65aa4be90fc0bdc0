import Calculator.Grammar
import Calculator.SyntaxError

/-!
Cursors: places in a token list.

A cursor stands before the tokens that are left and keeps count of the groups that are open. What a
rule of the grammar does at a cursor is a `Step`: a result, or an error, and the cursor behind it. A
step carries the proof that it puts no tokens back, which is why rules that call each other end. Its
`outcome` leaves the proof out, and the lemmas here say what each way to build a step does to it.
-/

namespace Calculator

/-- A place in a token list, and the groups that are open there. -/
structure Cursor where
  /-- The tokens from here on. -/
  rest : List Token
  /-- The offset just past the last token, where an unexpected end is reported. -/
  stop : Nat
  /-- How many groups are open. -/
  openGroups : Nat
  /-- Whether the `)` of the innermost group has been taken, with its factor still to finish. -/
  groupClosed : Bool
deriving DecidableEq, Repr

namespace Cursor

/-- The cursor before the first token, with no group open. -/
def ofTokens (tokens : List Token) : Cursor where
  rest := tokens
  stop := (tokens.getLast?.map (·.span.stop)).getD 0
  openGroups := 0
  groupClosed := false

/-- The next token, which stays. -/
def peek? (c : Cursor) : Option Token := c.rest.head?

/-- Whether no token is left. -/
def atEnd (c : Cursor) : Bool := c.rest.isEmpty

/-- The error at the end of the input. -/
def endError (c : Cursor) : ParseError := ⟨.unexpectedEnd, ⟨c.stop, 0⟩⟩

/-- Takes the next token. -/
def take (c : Cursor) : Except ParseError Token × Cursor :=
  match c.rest with
  | [] => (.error c.endError, c)
  | token :: rest => (.ok token, { c with rest })

/-- The additive operator that a token begins a tail with. -/
def additive? : Kind → Option Additive
  | .plus => some .plus
  | .minus => some .minus
  | _ => none

/-- The multiplicative operator that a token begins a tail with. -/
def multiplicative? : Kind → Option Multiplicative
  | .star => some .times
  | .slash => some .over
  | _ => none

/-- What a rule yields at `c`: a result, and a cursor with no more tokens left than `c` has. -/
structure Step (α : Type) (c : Cursor) where
  result : Except ParseError α
  next : Cursor
  le : next.rest.length ≤ c.rest.length

namespace Step

variable {α β : Type} {c : Cursor}

/-- Succeeds and stays. -/
def done (c : Cursor) (a : α) : Step α c := ⟨.ok a, c, Nat.le_refl _⟩

/-- Fails and stays. -/
def fail (c : Cursor) (e : ParseError) : Step α c := ⟨.error e, c, Nat.le_refl _⟩

/-- The same step, seen from a cursor with at least as many tokens left. -/
def behind {d : Cursor} (h : d.rest.length ≤ c.rest.length) (s : Step α d) : Step α c :=
  ⟨s.result, s.next, Nat.le_trans s.le h⟩

/-- Two steps, one behind the other; the second sees where it starts and is left out on an error. -/
def bind (s : Step α c)
    (f : α → (d : Cursor) → d.rest.length ≤ c.rest.length → Step β d) : Step β c :=
  match s.result with
  | .error e => ⟨.error e, s.next, s.le⟩
  | .ok a => (f a s.next s.le).behind s.le

/-- Applies a function to the result. -/
def map (f : α → β) (s : Step α c) : Step β c := ⟨s.result.map f, s.next, s.le⟩

end Step

/-- The result of a step and the cursor behind it. -/
def Step.outcome {α : Type} {c : Cursor} (s : Step α c) : Except ParseError α × Cursor :=
  (s.result, s.next)

namespace Step

variable {α β : Type} {c : Cursor}

theorem outcome_done (a : α) : (done c a).outcome = (.ok a, c) := rfl

theorem outcome_fail (e : ParseError) : (fail c e : Step α c).outcome = (.error e, c) := rfl

theorem outcome_behind {d : Cursor} (h : d.rest.length ≤ c.rest.length) (s : Step α d) :
    (s.behind h).outcome = s.outcome := rfl

theorem outcome_map (f : α → β) (s : Step α c) :
    (s.map f).outcome = (s.outcome.1.map f, s.outcome.2) := rfl

theorem outcome_bind (s : Step α c)
    (f : α → (d : Cursor) → d.rest.length ≤ c.rest.length → Step β d) :
    (s.bind f).outcome =
      match s with
      | ⟨.error e, c₁, _⟩ => (.error e, c₁)
      | ⟨.ok a, c₁, h⟩ => (f a c₁ h).outcome := by
  rcases s with ⟨_ | _, _, _⟩ <;> rfl

end Step

end Cursor

end Calculator
