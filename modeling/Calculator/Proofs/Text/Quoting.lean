import Calculator.Proofs.Text.Cuts
import Calculator.Text.Quoted

/-!
Quoted texts tell their texts apart.

A character between the quotes is written in one of three ways, and the first of what is written
tells which: a backslash and a letter, a backslash and a code point in braces, or the character
itself, which then is neither a quote nor a backslash. So a reader knows where one character ends
and the next begins, and that the first quote that stands for itself is the end of the text.
Whatever the text holds, nothing of what is written is a line feed.

* `Text.quoteChar_append_inj`: what is written of a character tells the character, whatever follows.
* `Text.quote_injective`: no two texts are the same between quotes.
* `Text.lineFeed_notMem_quote`: a quoted text is on one line.
-/

namespace Calculator.Text

/-! ### Code points in hexadecimal -/

/-- Different digits have different signs. -/
theorem digitChar_injective {m n : Nat} (hm : m < 16) (hn : n < 16)
    (same : m.digitChar = n.digitChar) : m = n := by
  have finite : ∀ i < 16, ∀ j < 16, Nat.digitChar i = Nat.digitChar j → i = j := by decide
  exact finite m hm n hn same

/-- A number is told by its digits in hexadecimal. -/
theorem toDigits_injective {m n : Nat} (same : Nat.toDigits 16 m = Nat.toDigits 16 n) : m = n := by
  induction m using Nat.strongRecOn generalizing n with
  | ind m ih =>
    rw [Nat.toDigits_eq_if (by decide), Nat.toDigits_eq_if (n := n) (by decide)] at same
    split at same <;> split at same
    · next hm hn => exact digitChar_injective hm hn (List.singleton_inj.mp same)
    · have := congrArg List.length same
      simp at this
    · have := congrArg List.length same
      simp at this
    · next hm hn =>
      obtain ⟨front, last⟩ := List.append_inj' same rfl
      have high := ih (m / 16) (by omega) front
      have low := digitChar_injective (Nat.mod_lt m (by decide)) (Nat.mod_lt n (by decide))
        (List.singleton_inj.mp last)
      omega

/-- A digit in hexadecimal is one of sixteen signs. -/
theorem exists_digitChar_of_mem_toDigits {n : Nat} {c : Char} (member : c ∈ Nat.toDigits 16 n) :
    ∃ i < 16, c = Nat.digitChar i := by
  induction n using Nat.strongRecOn with
  | ind n ih =>
    rw [Nat.toDigits_eq_if (by decide)] at member
    split at member
    · next small => exact ⟨n, small, List.mem_singleton.mp member⟩
    · rcases List.mem_append.mp member with front | last
      · exact ih (n / 16) (by omega) front
      · exact ⟨n % 16, Nat.mod_lt n (by decide), List.mem_singleton.mp last⟩

theorem notMem_toDigits {c : Char} (noDigit : ∀ i < 16, c ≠ Nat.digitChar i) (n : Nat) :
    c ∉ Nat.toDigits 16 n := by
  intro member
  obtain ⟨i, small, rfl⟩ := exists_digitChar_of_mem_toDigits member
  exact noDigit i small rfl

/-! ### One character -/

/-- The characters that are written with a letter behind a backslash, and the letters. -/
def escapes : List (Char × Char) :=
  [('"', '"'), ('\\', '\\'), ('\n', 'n'), ('\r', 'r'), ('\t', 't'), ('\x00', '0')]

theorem escapeLetter?_eq_some {c letter : Char} (h : escapeLetter? c = some letter) :
    (c, letter) ∈ escapes := by
  unfold escapeLetter? at h
  split at h <;> cases h <;> decide

/-- A letter stands for one character. -/
theorem escapeLetter?_injective {c d letter : Char} (hc : escapeLetter? c = some letter)
    (hd : escapeLetter? d = some letter) : c = d := by
  have finite : ∀ p ∈ escapes, ∀ q ∈ escapes, p.2 = q.2 → p.1 = q.1 := by decide
  exact finite _ (escapeLetter?_eq_some hc) _ (escapeLetter?_eq_some hd) rfl

/-- The letter of a code point stands for no character. -/
theorem escapeLetter?_ne_u (c : Char) : escapeLetter? c ≠ some 'u' := by
  intro h
  have finite : ∀ p ∈ escapes, p.2 ≠ 'u' := by decide
  exact finite _ (escapeLetter?_eq_some h) rfl

/-- The three ways to write a character. -/
inductive Written (c : Char) : List Char → Prop where
  | letter {l : Char} (has : escapeLetter? c = some l) : Written c ['\\', l]
  | codePoint (none : escapeLetter? c = none) :
      Written c ('\\' :: 'u' :: '\x7b' :: (Nat.toDigits 16 c.toNat ++ ['\x7d']))
  | itself (none : escapeLetter? c = none) : Written c [c]

theorem written_quoteChar (c : Char) : Written c (quoteChar c) := by
  unfold quoteChar
  split
  · next has => exact .letter has
  · next none =>
    split
    · exact .codePoint none
    · exact .itself none

/-- The backslash has a letter of its own and is never written by itself. -/
theorem ne_backslash {c : Char} (none : escapeLetter? c = none) : c ≠ '\\' := by
  rintro rfl
  cases none

/-- Two code points in braces are told apart, and so is what follows them. -/
theorem codePoint_append_inj {c d : Char} {rest rest' : List Char}
    (same : Nat.toDigits 16 c.toNat ++ ['\x7d'] ++ rest =
      Nat.toDigits 16 d.toNat ++ ['\x7d'] ++ rest') : c = d ∧ rest = rest' := by
  have noBrace (n : Nat) : ∀ digit ∈ Nat.toDigits 16 n, ¬ digit = '\x7d' := by
    rintro digit member rfl
    exact notMem_toDigits (by decide) n member
  simp only [List.append_assoc, List.singleton_append] at same
  obtain ⟨digits, -, rest⟩ := append_cons_unique (noBrace _) (noBrace _) rfl rfl same
  exact ⟨Char.toNat_inj.mp (toDigits_injective digits), rest⟩

/-- What is written of a character tells the character, and where it ends. -/
theorem Written.append_inj {c d : Char} {word word' rest rest' : List Char}
    (hc : Written c word) (hd : Written d word') (same : word ++ rest = word' ++ rest') :
    c = d ∧ rest = rest' := by
  cases hc with
  | letter has =>
    cases hd with
    | letter has' =>
      obtain ⟨-, tail⟩ := List.cons.inj same
      obtain ⟨rfl, rest⟩ := List.cons.inj tail
      exact ⟨escapeLetter?_injective has has', rest⟩
    | codePoint _ =>
      obtain ⟨-, tail⟩ := List.cons.inj same
      obtain ⟨rfl, -⟩ := List.cons.inj tail
      exact absurd has (escapeLetter?_ne_u c)
    | itself none => exact absurd (List.cons.inj same).1.symm (ne_backslash none)
  | codePoint _ =>
    cases hd with
    | letter has' =>
      obtain ⟨-, tail⟩ := List.cons.inj same
      obtain ⟨rfl, -⟩ := List.cons.inj tail
      exact absurd has' (escapeLetter?_ne_u d)
    | codePoint _ =>
      simp only [List.cons_append, List.cons.injEq, true_and] at same
      exact codePoint_append_inj (by simpa using same)
    | itself none => exact absurd (List.cons.inj same).1.symm (ne_backslash none)
  | itself none =>
    cases hd with
    | letter _ => exact absurd (List.cons.inj same).1 (ne_backslash none)
    | codePoint _ => exact absurd (List.cons.inj same).1 (ne_backslash none)
    | itself _ => exact List.cons.inj same

/-- **What is written of a character tells the character**, whatever follows. -/
theorem quoteChar_append_inj {c d : Char} {rest rest' : List Char}
    (same : quoteChar c ++ rest = quoteChar d ++ rest') : c = d ∧ rest = rest' :=
  (written_quoteChar c).append_inj (written_quoteChar d) same

/-- A quote between the quotes is written with a backslash before it. -/
theorem quoteChar_append_ne (c : Char) (rest rest' : List Char) :
    quoteChar c ++ rest ≠ '"' :: rest' := by
  intro same
  have written := written_quoteChar c
  generalize quoteChar c = word at written same
  cases written with
  | letter _ | codePoint _ => exact absurd (List.cons.inj same).1 (by decide)
  | itself none =>
    obtain ⟨rfl, -⟩ := List.cons.inj same
    cases none

/-- Nothing that is written of a character is a line feed. -/
theorem lineFeed_notMem_quoteChar (c : Char) : '\n' ∉ quoteChar c := by
  have written := written_quoteChar c
  generalize quoteChar c = word at written
  cases written with
  | letter has =>
    have finite : ∀ p ∈ escapes, '\n' ≠ p.2 := by decide
    simp [finite _ (escapeLetter?_eq_some has)]
  | codePoint _ =>
    have noFeed := notMem_toDigits (c := '\n') (by decide) c.toNat
    simp [noFeed]
  | itself none =>
    rintro (_ | ⟨_, ⟨⟩⟩)
    cases none

/-! ### Quoted texts -/

/-- The characters between the quotes are told by what is written of them, whatever follows. -/
theorem flatMap_quoteChar_append_inj {cs ds rest rest' : List Char}
    (same : cs.flatMap quoteChar ++ '"' :: rest = ds.flatMap quoteChar ++ '"' :: rest') :
    cs = ds ∧ rest = rest' := by
  induction cs generalizing ds with
  | nil =>
    cases ds with
    | nil => exact ⟨rfl, (List.cons.inj same).2⟩
    | cons d ds =>
      rw [List.flatMap_cons, List.append_assoc] at same
      exact absurd same.symm (quoteChar_append_ne d _ _)
  | cons c cs ih =>
    rw [List.flatMap_cons, List.append_assoc] at same
    cases ds with
    | nil => exact absurd same (quoteChar_append_ne c _ _)
    | cons d ds =>
      rw [List.flatMap_cons, List.append_assoc] at same
      obtain ⟨rfl, tail⟩ := quoteChar_append_inj same
      obtain ⟨rfl, rest⟩ := ih tail
      exact ⟨rfl, rest⟩

theorem toList_quote (text : String) :
    (quote text).toList = '"' :: (text.toList.flatMap quoteChar ++ ['"']) := by
  rw [quote, String.toList_ofList]
  rfl

/-- **No two texts are the same between quotes.** -/
theorem quote_injective {text text' : String} (same : quote text = quote text') : text = text' := by
  have characters := congrArg String.toList same
  rw [toList_quote, toList_quote] at characters
  exact String.toList_inj.mp (flatMap_quoteChar_append_inj (List.cons.inj characters).2).1

/-- **A quoted text is on one line.** -/
theorem lineFeed_notMem_quote (text : String) : '\n' ∉ (quote text).toList := by
  rw [toList_quote]
  simp [lineFeed_notMem_quoteChar]

end Calculator.Text
