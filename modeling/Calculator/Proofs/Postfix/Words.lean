import Calculator.Postfix
import Calculator.Proofs.Text.Cuts
import Calculator.Proofs.Token.Canonical

/-!
Reading a postfix sequence back from its line.

A sequence is written as words with single blanks between them. A word stands for an operator or a
negation if it is one of their words, and for a number otherwise. The line can be read back if no
number among the symbols has a blank in its text or is one of these words. Numbers as lexing leaves
them are runs of digits, and so are neither.

* `Postfix.ofText`: the sequence that a line stands for.
* `Postfix.ofText_text`: a sequence is read back from its line.
-/

namespace Calculator

/-- The symbol that a word stands for. -/
def Symbol.ofWord : String → Symbol
  | "+" => .operator .add
  | "-" => .operator .sub
  | "*" => .operator .mul
  | "/" => .operator .div
  | "neg" => .negate
  | word => .number word

/-- The symbols that the words of a line stand for, with a blank between two words. -/
def Postfix.ofText (line : String) : Postfix :=
  (Text.splitAt ' ' line.toList).map fun word => Symbol.ofWord (String.ofList word)

/-- The symbol has a run of digits for its text, if it is a number. -/
def Symbol.Lexical (s : Symbol) : Prop := ∀ text, s = .number text → IsDigits text

/-- A symbol is read back from its word. -/
theorem Symbol.ofWord_text {s : Symbol} (lexical : s.Lexical) : ofWord s.text = s := by
  cases s with
  | operator op => cases op <;> rfl
  | negate => rfl
  | number text =>
    have digits := lexical text rfl
    rw [Symbol.text]
    unfold ofWord
    split
    all_goals first | rfl | exact absurd digits (by decide)

/-- No word of a symbol has a blank in it. -/
theorem Symbol.blank_notMem_text {s : Symbol} (lexical : s.Lexical) : ' ' ∉ s.text.toList := by
  cases s with
  | operator op => cases op <;> decide
  | negate => decide
  | number text => exact fun member => absurd ((lexical text rfl).2 _ member) (by decide)

/-- **A sequence is read back from its line**, if it has a symbol. -/
theorem Postfix.ofText_text {p : Postfix} (nonempty : p ≠ []) (lexical : ∀ s ∈ p, s.Lexical) :
    Postfix.ofText p.text = p := by
  have words : Text.splitAt ' ' p.text.toList = p.map fun s => s.text.toList := by
    rw [Postfix.text, String.toList_intercalate, List.map_map]
    refine Text.splitAt_intercalate (by simpa using nonempty) ?_
    simp only [List.mem_map]
    rintro word ⟨s, member, rfl⟩
    exact Symbol.blank_notMem_text (lexical s member)
  rw [Postfix.ofText, words, List.map_map]
  refine (List.map_congr_left fun s member => ?_).trans (List.map_id p)
  rw [Function.comp_apply, String.ofList_toList, Symbol.ofWord_text (lexical s member), id]

end Calculator
