import Calculator.Proofs.Text.Cuts
import Calculator.Proofs.Token.Tiling

/-!
Where lexing stops.

Lexing stops at the first character that is neither a digit nor a sign, wherever in the text it
stands, and the error keeps the text from there on. The offset counts the bytes before it, which are
those of a text that lexes.

* `scan_eq_error_iff`: the error, by the first character outside the alphabet.
* `lex_eq_error_iff`: the same for a text as a whole.
-/

namespace Calculator

/-- The error of lexing keeps everything from the first character outside the alphabet on. -/
theorem stops_of_scan {offset : Nat} {cs : List Char} {error : LexError}
    (h : scan offset cs = .error error) :
    ∃ before c after, cs = before ++ c :: after ∧ (∀ d ∈ before, Lexable d) ∧ ¬ Lexable c ∧
      error = ⟨String.ofList (c :: after), offset + (String.ofList before).utf8ByteSize⟩ := by
  fun_induction scan offset cs
  case case1 => cases h
  case case2 offset c cs digit run token ih =>
    obtain ⟨before, d, after, rest, lexable, stop, rfl⟩ := ih (map_eq_error.mp h)
    have digits : ∀ d ∈ run, d.isDigit :=
      List.forall_mem_cons.mpr ⟨digit, fun d => List.mem_takeWhile_imp⟩
    refine ⟨run ++ before, d, after, ?_, ?_, stop, ?_⟩
    · rw [List.append_assoc, ← rest, List.cons_append, List.takeWhile_append_dropWhile]
    · exact List.forall_mem_append.mpr ⟨fun d member => .inl (digits d member), lexable⟩
    · rw [String.ofList_append, String.utf8ByteSize_append, utf8ByteSize_digits digits,
        Nat.add_assoc]
  case case3 offset c cs noDigit kind sign ih =>
    obtain ⟨before, d, after, rfl, lexable, stop, rfl⟩ := ih (map_eq_error.mp h)
    have first : Lexable c := lexable_iff.mpr (.inr ⟨kind, sign⟩)
    have size : (String.ofList (c :: before)).utf8ByteSize =
        1 + (String.ofList before).utf8ByteSize := by
      rw [String.utf8ByteSize_ofList, String.utf8Len_cons, (Kind.of_ofSign? sign).2.1,
        String.utf8ByteSize_ofList, Nat.add_comm]
    refine ⟨c :: before, d, after, rfl, List.forall_mem_cons.mpr ⟨first, lexable⟩, stop, ?_⟩
    rw [size, Nat.add_assoc]
  case case4 offset c cs noDigit noSign =>
    cases h
    have stop : ¬ Lexable c := by
      rw [lexable_iff]
      rintro (digit | ⟨kind, sign⟩)
      · exact noDigit digit
      · rw [noSign] at sign
        cases sign
    exact ⟨[], c, cs, rfl, by simp, stop, by simp⟩

/-- **Lexing stops at the first character outside the alphabet.** -/
theorem scan_eq_error_iff {offset : Nat} {cs : List Char} {error : LexError} :
    scan offset cs = .error error ↔
      ∃ before c after, cs = before ++ c :: after ∧ (∀ d ∈ before, Lexable d) ∧ ¬ Lexable c ∧
        error = ⟨String.ofList (c :: after), offset + (String.ofList before).utf8ByteSize⟩ := by
  constructor
  · exact stops_of_scan
  · rintro ⟨before, c, after, rfl, lexable, stop, rfl⟩
    cases scanned : scan offset (before ++ c :: after) with
    | ok tokens => exact absurd (exists_scan_iff.mp ⟨tokens, scanned⟩ c (by simp)) stop
    | error error =>
      obtain ⟨before', c', after', same, lexable', stop', rfl⟩ := stops_of_scan scanned
      obtain ⟨rfl, rfl, rfl⟩ := Text.append_cons_unique (p := fun c => ¬ Lexable c)
        (fun d member => not_not_intro (lexable d member))
        (fun d member => not_not_intro (lexable' d member)) stop stop' same
      rfl

/-- A text that does not lex is cut where lexing stops. -/
theorem lex_eq_error_iff {text : String} {error : LexError} :
    lex text = .error error ↔
      ∃ before, text = before ++ error.remainder ∧ error.offset = before.utf8ByteSize ∧
        (∀ c ∈ before.toList, Lexable c) ∧ ∃ c ∈ error.remainder.toList.head?, ¬ Lexable c := by
  rw [lex, scan_eq_error_iff]
  constructor
  · rintro ⟨before, c, after, characters, lexable, stop, rfl⟩
    refine ⟨String.ofList before, ?_, by simp, by simpa using lexable, c, by simp, stop⟩
    rw [← String.toList_inj, characters]
    simp
  · rintro ⟨before, rfl, size, lexable, c, first, stop⟩
    obtain ⟨after, characters⟩ := List.head?_eq_some_iff.mp first
    refine ⟨before.toList, c, after, by rw [String.toList_append, characters], lexable, stop, ?_⟩
    rw [← characters, String.ofList_toList, String.ofList_toList, Nat.zero_add, ← size]

end Calculator
