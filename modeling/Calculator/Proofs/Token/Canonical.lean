import Calculator.Token.Lexing
import Mathlib.Data.String.Basic
import Mathlib.Data.List.TakeWhile

/-!
Canonical token lists.

A text lexes to exactly one kind of token list. Each token has a text of its kind, the spans follow
one another without a gap, and no number stands directly before another, since their digits would
have been one run. `Canonical offset tokens` says this of tokens that begin at a byte offset.

* `scan_eq_ok_iff`: the lists that a text lexes to are the canonical ones that spell it out.
* `lex_eq_ok_iff`: the same for a text as a whole.
-/

namespace Calculator

/-! ### Texts of a kind -/

/-- One or more decimal digits and nothing else. -/
def IsDigits (text : String) : Prop := text ≠ "" ∧ ∀ c ∈ text.toList, c.isDigit

instance (text : String) : Decidable (IsDigits text) :=
  decidable_of_iff (text ≠ "" ∧ text.toList.all Char.isDigit) (by simp [IsDigits])

/-- The texts of the tokens of a kind: a number is a run of digits, the other kinds are signs. No
text makes an unrecognized token. -/
def Kind.Accepts : Kind → String → Prop
  | .number, text => IsDigits text
  | kind, text => ∃ c, Kind.ofSign? c = some kind ∧ text = String.singleton c

theorem isDigits_ofList {cs : List Char} :
    IsDigits (String.ofList cs) ↔ cs ≠ [] ∧ ∀ c ∈ cs, c.isDigit := by
  rw [IsDigits, String.toList_ofList, Ne, String.ofList_eq_empty_iff]

/-- No sign is a digit, and no sign stands for a number. -/
theorem Kind.of_ofSign? {c : Char} {kind : Kind} (sign : Kind.ofSign? c = some kind) :
    c.isDigit = false ∧ c.utf8Size = 1 ∧ kind ≠ .number := by
  unfold Kind.ofSign? at sign
  split at sign <;> cases sign <;> decide

/-- A kind has one sign at most. -/
theorem Kind.ofSign?_injective {c d : Char} {kind : Kind} (h : Kind.ofSign? c = some kind)
    (h' : Kind.ofSign? d = some kind) : c = d := by
  unfold Kind.ofSign? at h h'
  split at h <;> cases h <;> split at h' <;> cases h' <;> rfl

/-- A token that is no number has a sign for its text. -/
theorem Kind.Accepts.sign {kind : Kind} {text : String} (accepts : kind.Accepts text)
    (noNumber : kind ≠ .number) : ∃ c, Kind.ofSign? c = some kind ∧ text = String.singleton c := by
  cases kind <;> first | exact accepts | exact absurd rfl noNumber

/-- A sign makes a token of its kind. -/
theorem Kind.accepts_singleton {c : Char} {kind : Kind} (sign : Kind.ofSign? c = some kind) :
    kind.Accepts (String.singleton c) := by
  have noNumber := (Kind.of_ofSign? sign).2.2
  cases kind <;> first | exact ⟨c, sign, rfl⟩ | exact absurd rfl noNumber

theorem utf8Size_of_isDigit {c : Char} (digit : c.isDigit) : c.utf8Size = 1 := by
  simp only [Char.isDigit, Bool.and_eq_true, decide_eq_true_eq] at digit
  have small : '9'.val ≤ 127 := by decide
  exact Char.utf8Size_eq_one_iff.mpr (UInt32.le_trans digit.2 small)

/-- The text of a token that is no number is known from its kind. -/
theorem Kind.Accepts.unique {kind : Kind} {text text' : String} (accepts : kind.Accepts text)
    (accepts' : kind.Accepts text') (noNumber : kind ≠ .number) : text = text' := by
  obtain ⟨c, sign, rfl⟩ := accepts.sign noNumber
  obtain ⟨d, sign', rfl⟩ := accepts'.sign noNumber
  rw [Kind.ofSign?_injective sign sign']

/-- The first character of a token's text tells whether the token is a number. -/
theorem Kind.Accepts.exists_cons {kind : Kind} {text : String} (accepts : kind.Accepts text) :
    ∃ c cs, text.toList = c :: cs ∧ (c.isDigit ↔ kind = .number) := by
  by_cases isNumber : kind = .number
  · subst isNumber
    obtain ⟨nonempty, digits⟩ := accepts
    obtain ⟨c, cs, first⟩ := List.exists_cons_of_ne_nil (mt String.toList_eq_nil_iff.mp nonempty)
    exact ⟨c, cs, first, by simp [digits c (first ▸ List.mem_cons_self)]⟩
  · obtain ⟨c, sign, rfl⟩ := accepts.sign isNumber
    exact ⟨c, [], by simp, by simp [(Kind.of_ofSign? sign).1, isNumber]⟩

/-- Digits take one byte each. -/
theorem utf8ByteSize_digits {cs : List Char} (digits : ∀ c ∈ cs, c.isDigit) :
    (String.ofList cs).utf8ByteSize = cs.length := by
  rw [String.utf8ByteSize_ofList]
  induction cs with
  | nil => rfl
  | cons c cs ih =>
    obtain ⟨digit, digits⟩ := List.forall_mem_cons.mp digits
    rw [String.utf8Len_cons, ih digits, utf8Size_of_isDigit digit, List.length_cons]

/-! ### Canonical lists -/

/-- Token lists as lexing leaves them, from a byte offset on. -/
inductive Canonical : Nat → List Token → Prop where
  | nil (offset : Nat) : Canonical offset []
  | cons {offset : Nat} {kind : Kind} {text : String} {tokens : List Token}
      (accepts : kind.Accepts text)
      (maximal : kind = .number → ¬ ∃ next ∈ tokens.head?, next.kind = .number)
      (rest : Canonical (offset + text.utf8ByteSize) tokens) :
      Canonical offset (⟨kind, text, ⟨offset, text.utf8ByteSize⟩⟩ :: tokens)

/-- The characters of some tokens, one text after the other. -/
def Token.characters (tokens : List Token) : List Char :=
  tokens.flatMap fun token => token.text.toList

@[simp] theorem Token.characters_nil : Token.characters [] = [] := rfl

@[simp] theorem Token.characters_cons (token : Token) (tokens : List Token) :
    Token.characters (token :: tokens) = token.text.toList ++ Token.characters tokens := rfl

/-- What begins with a digit is what begins with a number. -/
theorem Canonical.isDigit_head_iff {offset : Nat} {tokens : List Token}
    (h : Canonical offset tokens) :
    (∃ c ∈ (Token.characters tokens).head?, c.isDigit) ↔
      ∃ token ∈ tokens.head?, token.kind = .number := by
  cases h with
  | nil => simp
  | cons accepts =>
    obtain ⟨c, cs, first, digit⟩ := accepts.exists_cons
    simp [first, digit]

/-! ### Lexing -/

theorem map_eq_ok {ε α β : Type} {f : α → β} {x : Except ε α} {b : β} :
    x.map f = .ok b ↔ ∃ a, x = .ok a ∧ f a = b := by
  cases x <;> simp [Except.map]

theorem map_eq_error {ε α β : Type} {f : α → β} {x : Except ε α} {e : ε} :
    x.map f = .error e ↔ x = .error e := by
  cases x <;> simp [Except.map]

/-- A run of digits with no digit behind it is one token. -/
theorem scan_digits {offset : Nat} {run rest : List Char} (nonempty : run ≠ [])
    (digits : ∀ c ∈ run, c.isDigit) (ends : ¬ ∃ c ∈ rest.head?, c.isDigit) :
    scan offset (run ++ rest) =
      (scan (offset + run.length) rest).map
        (⟨.number, String.ofList run, ⟨offset, run.length⟩⟩ :: ·) := by
  obtain ⟨c, cs, rfl⟩ := List.exists_cons_of_ne_nil nonempty
  obtain ⟨digit, digits⟩ := List.forall_mem_cons.mp digits
  have nothing : rest.takeWhile Char.isDigit = [] ∧ rest.dropWhile Char.isDigit = rest := by
    cases rest with
    | nil => exact ⟨rfl, rfl⟩
    | cons d ds =>
      have noDigit : ¬ d.isDigit := fun digit => ends ⟨d, rfl, digit⟩
      exact ⟨List.takeWhile_cons_of_neg noDigit, List.dropWhile_cons_of_neg noDigit⟩
  rw [List.cons_append, scan, if_pos digit]
  simp only [List.takeWhile_append_of_pos digits, List.dropWhile_append_of_pos digits, nothing,
    List.append_nil]

/-- A sign is a token by itself. -/
theorem scan_sign {offset : Nat} {c : Char} {kind : Kind} (sign : Kind.ofSign? c = some kind)
    (cs : List Char) :
    scan offset (c :: cs) =
      (scan (offset + 1) cs).map (⟨kind, String.singleton c, ⟨offset, 1⟩⟩ :: ·) := by
  rw [scan, if_neg (by simp [(Kind.of_ofSign? sign).1]), sign]

/-- A canonical list is what its characters lex to. -/
theorem Canonical.scan_eq_ok {offset : Nat} {tokens : List Token} (h : Canonical offset tokens) :
    scan offset (Token.characters tokens) = .ok tokens := by
  induction h with
  | nil offset => rw [Token.characters_nil, scan]
  | @cons offset kind text tokens accepts maximal rest ih =>
    rw [Token.characters_cons]
    by_cases isNumber : kind = .number
    · subst isNumber
      obtain ⟨nonempty, digits⟩ := accepts
      have ends := mt rest.isDigit_head_iff.mp (maximal rfl)
      rw [scan_digits (mt String.toList_eq_nil_iff.mp nonempty) digits ends,
        ← utf8ByteSize_digits digits, String.ofList_toList, ih]
      rfl
    · obtain ⟨c, sign, rfl⟩ := accepts.sign isNumber
      have size : (String.singleton c).utf8ByteSize = 1 := by
        rw [String.utf8ByteSize_singleton, (Kind.of_ofSign? sign).2.1]
      rw [size] at ih ⊢
      rw [String.toList_singleton, List.singleton_append, scan_sign sign, ih]
      rfl

/-- What lexing leaves is canonical, and its characters are those of the input. -/
theorem canonical_of_scan {offset : Nat} {cs : List Char} {tokens : List Token}
    (h : scan offset cs = .ok tokens) :
    Canonical offset tokens ∧ cs = Token.characters tokens := by
  fun_induction scan offset cs generalizing tokens
  case case1 offset =>
    cases h
    exact ⟨.nil offset, rfl⟩
  case case2 offset c cs digit run token ih =>
    obtain ⟨following, scanned, rfl⟩ := map_eq_ok.mp h
    obtain ⟨rest, same⟩ := ih scanned
    have digits : ∀ d ∈ run, d.isDigit :=
      List.forall_mem_cons.mpr ⟨digit, fun d => List.mem_takeWhile_imp⟩
    -- The run is as long as it can be, so no digit and hence no number comes next.
    have ends : ¬ ∃ d ∈ (Token.characters following).head?, d.isDigit := by
      rw [← same]
      have stops := List.head?_dropWhile_not Char.isDigit cs
      rintro ⟨d, first, digit⟩
      simp only [Option.mem_def] at first
      simp [first, digit] at stops
    have canonical : Canonical offset (token :: following) := by
      simp only [token]
      rw [← utf8ByteSize_digits digits] at rest ⊢
      exact .cons (isDigits_ofList.mpr ⟨List.cons_ne_nil _ _, digits⟩)
        (fun _ => mt rest.isDigit_head_iff.mpr ends) rest
    refine ⟨canonical, ?_⟩
    rw [Token.characters_cons, ← same, String.toList_ofList, List.cons_append,
      List.takeWhile_append_dropWhile]
  case case3 offset c cs noDigit kind sign ih =>
    obtain ⟨following, scanned, rfl⟩ := map_eq_ok.mp h
    obtain ⟨rest, same⟩ := ih scanned
    obtain ⟨-, size, noNumber⟩ := Kind.of_ofSign? sign
    rw [← size, ← String.utf8ByteSize_singleton] at rest ⊢
    refine ⟨.cons (Kind.accepts_singleton sign) (fun isNumber => absurd isNumber noNumber) rest, ?_⟩
    rw [Token.characters_cons, ← same, String.toList_singleton, List.singleton_append]
  case case4 offset c cs noDigit noSign => cases h

/-- **Characters lex to a token list exactly when it is canonical and spells them out.** -/
theorem scan_eq_ok_iff {offset : Nat} {cs : List Char} {tokens : List Token} :
    scan offset cs = .ok tokens ↔ Canonical offset tokens ∧ cs = Token.characters tokens := by
  constructor
  · exact canonical_of_scan
  · rintro ⟨canonical, rfl⟩
    exact canonical.scan_eq_ok

/-- The token lists of a text are the canonical ones that spell it out from its first byte. -/
theorem lex_eq_ok_iff {text : String} {tokens : List Token} :
    lex text = .ok tokens ↔ Canonical 0 tokens ∧ text = String.join (tokens.map Token.text) := by
  rw [lex, scan_eq_ok_iff, ← String.toList_inj, String.toList_join, Token.characters,
    List.flatMap_map]

end Calculator
