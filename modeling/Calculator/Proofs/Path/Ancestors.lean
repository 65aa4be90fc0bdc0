import Calculator.Path
import Calculator.Proofs.Text.Cuts

/-!
The directories above a path.

The steps of a path are what is between its slashes, as far as it goes anywhere; a `.` counts only
in front. The parent of a path is the shortest beginning of it that leads where all its steps but
the last lead. So neither a slash nor an idle step stands behind the last step of a parent, and the
parent of a path with one step is the root or the empty path. The directories above a path are its
parent, the parent of that, and so on, until no step is left.

* `IsParent`, `Ascent`: the parent of a path, and the directories above it, nearest first.
* `Ascent.unique`, `Ascent.getLast?_eq`: a path has one such list, and where it ends.
* `stepsOf_spell`: the steps of a path that is put together from pieces.
* `ascent_parentsOf`: what is found above such a path.
* `ascent_iff`: the directories above a path.
-/

namespace Calculator.Path

/-- The path starts at the root. -/
def IsAbsolute (path : String) : Prop := path.toList.head? = some '/'

instance (path : String) : Decidable (IsAbsolute path) :=
  inferInstanceAs (Decidable (path.toList.head? = some '/'))

/-- The steps that a path spells out. -/
def stepsOf (path : List Char) : List (List Char) :=
  match Text.splitAt '/' path with
  | [] => []
  | first :: others => [first].filter (· ≠ []) ++ others.filter (!isIdle ·)

/-- The steps of a path. -/
def steps (path : String) : List (List Char) := stepsOf path.toList

/-- A beginning of a path that starts where the path does and takes the given steps. -/
structure IsFront (path : String) (taken : List (List Char)) (front : String) : Prop where
  isPrefix : front.toList <+: path.toList
  sameStart : IsAbsolute front ↔ IsAbsolute path
  steps_eq : steps front = taken

/-- `IsParent path parent`: the path `parent` is the shortest beginning of `path` that takes all its
steps but the last. -/
def IsParent (path parent : String) : Prop :=
  steps path ≠ [] ∧ IsFront path (steps path).dropLast parent ∧
    ∀ front, IsFront path (steps path).dropLast front → parent.length ≤ front.length

/-- `Ascent path above`: these are the directories above the path, nearest first. -/
inductive Ascent : String → List String → Prop where
  | top {path : String} (noStep : steps path = []) : Ascent path []
  | up {path parent : String} {above : List String} (isParent : IsParent path parent)
      (further : Ascent parent above) : Ascent path (parent :: above)

/-! ### One list of directories above a path -/

theorem IsParent.unique {path parent parent' : String} (isParent : IsParent path parent)
    (isParent' : IsParent path parent') : parent = parent' := by
  obtain ⟨-, front, least⟩ := isParent
  obtain ⟨-, front', least'⟩ := isParent'
  have sameLength : parent.length = parent'.length :=
    Nat.le_antisymm (least parent' front') (least' parent front)
  rw [← String.length_toList, ← String.length_toList] at sameLength
  have within := List.prefix_of_prefix_length_le front.isPrefix front'.isPrefix sameLength.le
  exact String.toList_inj.mp (within.eq_of_length sameLength)

/-- A path has one list of directories above it. -/
theorem Ascent.unique {path : String} {above above' : List String} (ascent : Ascent path above)
    (ascent' : Ascent path above') : above = above' := by
  induction ascent generalizing above' with
  | top noStep =>
    cases ascent' with
    | top => rfl
    | up isParent => exact absurd noStep isParent.1
  | up isParent _ ih =>
    cases ascent' with
    | top noStep => exact absurd noStep isParent.1
    | up isParent' further =>
      obtain rfl := isParent.unique isParent'
      rw [ih further]

/-- The parent that takes no step is the root or the working directory. -/
theorem IsParent.eq_of_steps_eq_nil {path parent : String} (isParent : IsParent path parent)
    (noStep : steps parent = []) :
    (IsAbsolute path → parent = "/") ∧ (¬ IsAbsolute path → parent = "") := by
  obtain ⟨-, front, least⟩ := isParent
  rw [← front.steps_eq, noStep] at least
  constructor
  · intro absolute
    obtain ⟨rest, characters⟩ := List.head?_eq_some_iff.mp absolute
    have root : IsFront path [] "/" :=
      ⟨⟨rest, characters.symm⟩, iff_of_true rfl absolute, by decide⟩
    obtain ⟨more, parentCharacters⟩ := List.head?_eq_some_iff.mp (front.sameStart.mpr absolute)
    have short : (parent.toList).length ≤ 1 := String.length_toList ▸ least "/" root
    rw [parentCharacters, List.length_cons] at short
    obtain rfl : more = [] := List.length_eq_zero_iff.mp (by omega)
    exact String.toList_inj.mp parentCharacters
  · intro relative
    have empty : IsFront path [] "" :=
      ⟨List.nil_prefix, iff_of_false (by decide) relative, by decide⟩
    exact String.length_eq_zero_iff.mp (Nat.le_zero.mp (least "" empty))

/-- The directories above a path end with the root or the working directory. -/
theorem Ascent.getLast?_eq {path : String} {above : List String} (ascent : Ascent path above) :
    ∀ last ∈ above.getLast?, (IsAbsolute path → last = "/") ∧ (¬ IsAbsolute path → last = "") := by
  induction ascent with
  | top => simp
  | @up path parent above isParent further ih =>
    cases further with
    | top noStep =>
      rintro last ⟨⟩
      exact isParent.eq_of_steps_eq_nil noStep
    | up _ _ =>
      rw [List.getLast?_cons_cons]
      rwa [isParent.2.1.sameStart] at ih

/-! ### The steps of a path, slash by slash -/

theorem isIdle_eq_false_iff {step : List Char} :
    isIdle step = false ↔ step ≠ [] ∧ step ≠ ['.'] := by
  simp [isIdle]

theorem stepsOf_of_splitOn {path first : List Char} {others : List (List Char)}
    (pieces : path.splitOn '/' = first :: others) :
    stepsOf path = [first].filter (· ≠ []) ++ others.filter (!isIdle ·) := by
  rw [stepsOf, Text.splitAt_eq_splitOn, pieces]

theorem stepsOf_of_notMem {piece : List Char} (inside : '/' ∉ piece) :
    stepsOf piece = [piece].filter (· ≠ []) := by
  rw [stepsOf_of_splitOn (List.splitOn_eq_singleton inside), List.filter_nil, List.append_nil]

/-- Behind a slash, each piece that goes anywhere is a step. -/
theorem stepsOf_append_cons (front rest : List Char) :
    stepsOf (front ++ '/' :: rest) =
      stepsOf front ++ (rest.splitOn '/').filter (!isIdle ·) := by
  obtain ⟨first, others, pieces⟩ := List.exists_cons_of_ne_nil (List.splitOn_ne_nil '/' front)
  have longer : (front ++ '/' :: rest).splitOn '/' = first :: (others ++ rest.splitOn '/') := by
    rw [List.splitOn_append_cons_self, pieces, List.cons_append]
  rw [stepsOf_of_splitOn longer, stepsOf_of_splitOn pieces, List.filter_append, List.append_assoc]

theorem stepsOf_append_cons_of_notMem (front : List Char) {piece : List Char}
    (inside : '/' ∉ piece) :
    stepsOf (front ++ '/' :: piece) = stepsOf front ++ [piece].filter (!isIdle ·) := by
  rw [stepsOf_append_cons, List.splitOn_eq_singleton inside]

/-! ### How far a path goes -/

/-- How many characters the steps of a path have. It tells how far a path is spelled out: more
characters never make it less. -/
def extent (path : List Char) : Nat := (stepsOf path).flatten.length

theorem extent_of_notMem {piece : List Char} (inside : '/' ∉ piece) :
    extent piece = piece.length := by
  rw [extent, stepsOf_of_notMem inside]
  cases piece <;> simp

theorem extent_append_cons (front : List Char) {piece : List Char} (inside : '/' ∉ piece) :
    extent (front ++ '/' :: piece) =
      extent front + if isIdle piece then 0 else piece.length := by
  rw [extent, stepsOf_append_cons_of_notMem front inside, List.flatten_append, List.length_append,
    extent]
  cases idle : isIdle piece <;> simp [idle]

/-- A piece that ends before its last character goes less far than a step. -/
theorem extent_dropLast_lt (front : List Char) {piece : List Char} (inside : '/' ∉ piece)
    (step : isIdle piece = false) :
    extent (front ++ '/' :: piece.dropLast) < extent (front ++ '/' :: piece) := by
  have nonempty : piece ≠ [] := by
    rintro rfl
    cases step
  have shorter : piece.dropLast.length < piece.length := by
    have := List.length_pos_iff.mpr nonempty
    rw [List.length_dropLast]
    omega
  have inside' : '/' ∉ piece.dropLast := mt (List.dropLast_subset piece ·) inside
  rw [extent_append_cons front inside, extent_append_cons front inside', step]
  split <;> simp <;> omega

/-- One more character does not make a path go less far. -/
theorem extent_le_concat (path : List Char) (c : Char) : extent path ≤ extent (path ++ [c]) := by
  by_cases slash : c = '/'
  · subst slash
    rw [extent_append_cons path List.not_mem_nil]
    exact Nat.le_add_right _ _
  by_cases member : '/' ∈ path
  · obtain ⟨front, piece, rfl, inside⟩ := Text.exists_last_of_mem member
    have inside' : '/' ∉ piece ++ [c] := by simp [inside, Ne.symm slash]
    rw [List.append_assoc, List.cons_append, extent_append_cons front inside,
      extent_append_cons front inside']
    -- A longer piece is idle only as a dot, where nothing was before.
    cases piece with
    | nil => simp [isIdle]
    | cons d piece => simp [isIdle]; split <;> omega
  · rw [extent_of_notMem member, extent_of_notMem (by simp [member, Ne.symm slash])]
    simp

/-- A beginning of a path does not go further than the path. -/
theorem extent_le_of_prefix {front path : List Char} (isPrefix : front <+: path) :
    extent front ≤ extent path := by
  obtain ⟨rest, rfl⟩ := isPrefix
  induction rest using List.reverseRecOn with
  | nil => rw [List.append_nil]
  | append_singleton rest c ih =>
    rw [← List.append_assoc]
    exact ih.trans (extent_le_concat _ c)

/-! ### Paths put together from pieces -/

/-- The path with these pieces behind its lead. -/
def spell (lead : List Char) (pieces : List (List Char)) : List Char :=
  lead ++ ['/'].intercalate pieces

/-- The pieces have no slash, and they can stand behind this lead: nothing or a slash behind a dot,
and without a lead a step, unless nothing is there at all. -/
def Fits (lead : List Char) (pieces : List (List Char)) : Prop :=
  (∀ piece ∈ pieces, '/' ∉ piece) ∧
    (lead = ['/'] ∨ (lead = ['.'] ∧ ∀ first ∈ pieces.head?, first = []) ∨
      lead = [] ∧ (pieces = [[]] ∨ ∀ first ∈ pieces.head?, isIdle first = false))

/-- Fewer pieces can stand behind a lead too. -/
theorem Fits.of_prefix {lead : List Char} {pieces fewer : List (List Char)}
    (fits : Fits lead pieces) (isPrefix : fewer <+: pieces) : Fits lead fewer := by
  refine ⟨fun piece member => fits.1 piece (isPrefix.subset member), ?_⟩
  cases fewer with
  | nil =>
    rcases fits.2 with slash | ⟨dot, -⟩ | ⟨none, -⟩
    · exact .inl slash
    · exact .inr (.inl ⟨dot, by simp⟩)
    · exact .inr (.inr ⟨none, .inr (by simp)⟩)
  | cons first fewer =>
    obtain ⟨more, rfl⟩ := isPrefix
    refine fits.2.imp id (.imp id (And.imp id ?_))
    rintro (single | step)
    · simp_all
    · exact .inr step

/-- The front of a path and the pieces behind it fit, and they spell the path. -/
theorem spell_splitLead (path : List Char) :
    spell (splitLead path).1 (Text.splitAt '/' (splitLead path).2) = path ∧
      Fits (splitLead path).1 (Text.splitAt '/' (splitLead path).2) := by
  have apart (cs : List Char) : ∀ piece ∈ cs.splitOn '/', '/' ∉ piece :=
    fun piece => Text.notMem_of_mem_splitOn
  simp only [spell, Text.splitAt_eq_splitOn, List.intercalate_splitOn]
  fun_cases splitLead path with
  | case1 cs => exact ⟨rfl, apart cs, .inl rfl⟩
  | case2 => exact ⟨rfl, apart [], .inr (.inl ⟨rfl, by simp⟩)⟩
  | case3 cs =>
    have pieces : ('/' :: cs).splitOn '/' = [] :: cs.splitOn '/' := by
      simp [List.splitOn_cons_eq_if_modifyHead]
    exact ⟨rfl, apart _, .inr (.inl ⟨rfl, by simp [pieces]⟩)⟩
  | case4 path noSlash noDot noDotSlash =>
    refine ⟨rfl, apart path, .inr (.inr ⟨rfl, ?_⟩)⟩
    by_cases member : '/' ∈ path
    · right
      obtain ⟨first, rest, rfl, inside⟩ := List.eq_append_cons_of_mem member
      rw [List.splitOn_append_cons_self_of_not_mem inside]
      rintro _ ⟨⟩
      refine isIdle_eq_false_iff.mpr ⟨?_, ?_⟩
      · rintro rfl
        exact noSlash rest rfl
      · rintro rfl
        exact noDotSlash rest rfl
    · rw [List.splitOn_eq_singleton member]
      by_cases empty : path = []
      · exact .inl (by rw [empty])
      · right
        rintro _ ⟨⟩
        exact isIdle_eq_false_iff.mpr ⟨empty, noDot⟩

theorem spell_concat {lead : List Char} {pieces : List (List Char)} (some : pieces ≠ [])
    (last : List Char) : spell lead (pieces ++ [last]) = spell lead pieces ++ '/' :: last := by
  rw [spell, spell, List.append_assoc]
  congr 1
  induction pieces with
  | nil => exact absurd rfl some
  | cons first pieces ih =>
    cases pieces with
    | nil => simp [List.intercalate_cons_cons]
    | cons second pieces => simp [List.intercalate_cons_cons, ← ih]

/-- One more piece is one more step if it goes anywhere. -/
theorem stepsOf_spell_concat {lead : List Char} {pieces : List (List Char)} {last : List Char}
    (fits : Fits lead (pieces ++ [last])) :
    stepsOf (spell lead (pieces ++ [last])) =
      stepsOf (spell lead pieces) ++ [last].filter (!isIdle ·) := by
  have inside : '/' ∉ last := fits.1 last (by simp)
  cases pieces with
  | cons first pieces =>
    rw [spell_concat (List.cons_ne_nil _ _), stepsOf_append_cons_of_notMem _ inside]
  | nil =>
    simp only [spell, List.nil_append, List.intercalate_singleton, List.intercalate_nil,
      List.append_nil]
    rcases fits.2 with rfl | ⟨rfl, nothing⟩ | ⟨rfl, single | step⟩
    · exact stepsOf_append_cons_of_notMem [] inside
    · obtain rfl : last = [] := nothing last rfl
      decide
    · obtain rfl : last = [] := List.singleton_inj.mp single
      decide
    · have step : isIdle last = false := step last rfl
      have nonempty : last ≠ [] := (isIdle_eq_false_iff.mp step).1
      rw [List.nil_append, stepsOf_of_notMem inside, show stepsOf [] = [] from rfl]
      simp [step, nonempty]

/-- Idle pieces at the end take no step. -/
theorem stepsOf_spell_append {lead : List Char} {pieces idle : List (List Char)}
    (fits : Fits lead (pieces ++ idle)) (all : ∀ piece ∈ idle, isIdle piece) :
    stepsOf (spell lead (pieces ++ idle)) = stepsOf (spell lead pieces) := by
  induction idle using List.reverseRecOn with
  | nil => rw [List.append_nil]
  | append_singleton idle last ih =>
    have lastIdle : isIdle last = true := all last (by simp)
    rw [← List.append_assoc] at fits ⊢
    rw [stepsOf_spell_concat fits, ih (fits.of_prefix (List.prefix_append _ _))
      fun piece member => all piece (List.mem_append_left _ member)]
    simp [lastIdle]

theorem stepsOf_spell_trimEnd {lead : List Char} {pieces : List (List Char)}
    (fits : Fits lead pieces) :
    stepsOf (spell lead (Text.trimEnd isIdle pieces)) = stepsOf (spell lead pieces) := by
  obtain ⟨⟨idle, split, all⟩, -⟩ := Text.trimEnd_eq_iff.mp (rfl : _ = Text.trimEnd isIdle pieces)
  rw [split] at fits
  conv_rhs => rw [split]
  exact (stepsOf_spell_append fits all).symm

/-- Fewer pieces spell a beginning. -/
theorem spell_prefix (lead : List Char) {pieces fewer : List (List Char)}
    (isPrefix : fewer <+: pieces) : spell lead fewer <+: spell lead pieces := by
  obtain ⟨more, rfl⟩ := isPrefix
  induction more using List.reverseRecOn with
  | nil => simp
  | append_singleton more last ih =>
    refine ih.trans ?_
    rw [← List.append_assoc]
    by_cases some : fewer ++ more = []
    · rw [some, spell, spell, List.intercalate_nil, List.append_nil]
      exact List.prefix_append _ _
    · rw [spell_concat some]
      exact List.prefix_append _ _

/-- Only a slash as its lead makes a path start at the root. -/
theorem head?_spell_iff {lead : List Char} {pieces : List (List Char)} (fits : Fits lead pieces) :
    (spell lead pieces).head? = some '/' ↔ lead = ['/'] := by
  rcases fits.2 with rfl | ⟨rfl, -⟩ | ⟨rfl, first⟩
  · simp [spell]
  · simp [spell]
  · refine iff_of_false ?_ (List.cons_ne_nil _ _).symm
    rw [spell, List.nil_append]
    cases pieces with
    | nil => simp
    | cons piece pieces =>
      rcases first with single | step
      · simp [single]
      · intro head
        have nonempty : piece ≠ [] := (isIdle_eq_false_iff.mp (step piece rfl)).1
        obtain ⟨c, cs, rfl⟩ := List.exists_cons_of_ne_nil nonempty
        have inside : '/' ∉ c :: cs := fits.1 _ List.mem_cons_self
        cases pieces with
        | nil => simp_all
        | cons second pieces => simp_all [List.intercalate_cons_cons]

/-- A path that ends in a step goes further than without its last character. -/
theorem extent_dropLast_spell_lt {lead : List Char} {pieces : List (List Char)} {last : List Char}
    (fits : Fits lead (pieces ++ [last])) (step : isIdle last = false) :
    extent (spell lead (pieces ++ [last])).dropLast < extent (spell lead (pieces ++ [last])) := by
  have inside : '/' ∉ last := fits.1 last (by simp)
  have nonempty : last ≠ [] := (isIdle_eq_false_iff.mp step).1
  cases pieces with
  | cons first pieces =>
    rw [spell_concat (List.cons_ne_nil _ _), List.dropLast_append_of_ne_nil (List.cons_ne_nil _ _),
      List.dropLast_cons_of_ne_nil nonempty]
    exact extent_dropLast_lt _ inside step
  | nil =>
    simp only [spell, List.nil_append, List.intercalate_singleton] at fits ⊢
    rcases fits.2 with rfl | ⟨rfl, nothing⟩ | ⟨rfl, -⟩
    · rw [List.dropLast_append_of_ne_nil nonempty]
      exact extent_dropLast_lt [] inside step
    · exact absurd (nothing last rfl) nonempty
    · rw [List.nil_append, extent_of_notMem inside,
        extent_of_notMem (mt (List.dropLast_subset last ·) inside), List.length_dropLast]
      have := List.length_pos_iff.mpr nonempty
      omega

/-- A path that ends in a step, or is nothing but a lead, takes more steps than any shorter
beginning of it that starts where it does. -/
theorem eq_spell_of_stepsOf_eq {lead front : List Char} {pieces : List (List Char)}
    (fits : Fits lead pieces) (ends : ∀ last ∈ pieces.getLast?, isIdle last = false)
    (isPrefix : front <+: spell lead pieces)
    (sameStart : front.head? = some '/' ↔ (spell lead pieces).head? = some '/')
    (sameSteps : stepsOf front = stepsOf (spell lead pieces)) : front = spell lead pieces := by
  have leaves (nonempty : spell lead pieces ≠ []) (shorter : front ≠ spell lead pieces) :
      front <+: (spell lead pieces).dropLast := by
    rw [← List.dropLast_append_getLast nonempty, List.prefix_concat_iff,
      List.dropLast_append_getLast nonempty] at isPrefix
    exact isPrefix.resolve_left shorter
  by_contra shorter
  cases pieces using List.reverseRecOn with
  | nil =>
    simp only [spell, List.intercalate_nil, List.append_nil] at *
    rcases fits.2 with rfl | ⟨rfl, -⟩ | ⟨rfl, -⟩
    · obtain rfl : front = [] := List.prefix_nil.mp (leaves (by simp) shorter)
      simp at sameStart
    · obtain rfl : front = [] := List.prefix_nil.mp (leaves (by simp) shorter)
      exact absurd sameSteps (by decide)
    · exact shorter (List.prefix_nil.mp isPrefix)
  | append_singleton pieces last =>
    have further := extent_dropLast_spell_lt fits (ends last (by simp))
    have nonempty : spell lead (pieces ++ [last]) ≠ [] := by
      intro empty
      rw [empty] at further
      exact absurd further (by decide)
    have within := extent_le_of_prefix (leaves nonempty shorter)
    rw [extent, sameSteps] at within
    exact absurd further (Nat.not_lt.mpr within)

/-! ### The directories above a path -/

/-- The pieces before the last one that goes anywhere spell the parent. -/
theorem isParent_spell {lead : List Char} {pieces : List (List Char)} (fits : Fits lead pieces)
    (some : Text.trimEnd isIdle pieces ≠ []) :
    IsParent (String.ofList (spell lead pieces))
      (String.ofList (spell lead (Text.trimEnd isIdle (Text.trimEnd isIdle pieces).dropLast))) := by
  have kept_prefix := Text.trimEnd_prefix isIdle pieces
  have step := (Text.trimEnd_eq_iff.mp (rfl : _ = Text.trimEnd isIdle pieces)).2
  have sameSteps := stepsOf_spell_trimEnd fits
  generalize Text.trimEnd isIdle pieces = kept at *
  obtain ⟨before, last, rfl⟩ := (List.eq_nil_or_concat' kept).resolve_left some
  have step : isIdle last = false := step last (by simp)
  rw [List.dropLast_concat]
  have before_prefix : before <+: pieces := (List.prefix_append _ _).trans kept_prefix
  have above_prefix := (Text.trimEnd_prefix isIdle before).trans before_prefix
  have fitsAbove := fits.of_prefix above_prefix
  have steps_eq : steps (String.ofList (spell lead pieces)) =
      stepsOf (spell lead (Text.trimEnd isIdle before)) ++ [last] := by
    rw [steps, String.toList_ofList, ← sameSteps, stepsOf_spell_concat (fits.of_prefix kept_prefix),
      stepsOf_spell_trimEnd (fits.of_prefix before_prefix)]
    simp [step]
  have isFront : IsFront (String.ofList (spell lead pieces))
      (stepsOf (spell lead (Text.trimEnd isIdle before)))
      (String.ofList (spell lead (Text.trimEnd isIdle before))) := by
    refine ⟨?_, ?_, ?_⟩
    · simpa only [String.toList_ofList] using spell_prefix lead above_prefix
    · simp only [IsAbsolute, String.toList_ofList, head?_spell_iff fits, head?_spell_iff fitsAbove]
    · rw [steps, String.toList_ofList]
  rw [IsParent, steps_eq, List.dropLast_concat]
  refine ⟨by simp, isFront, fun front isFront' => ?_⟩
  -- A shorter beginning of the path is one of the parent, which ends in a step.
  by_contra shorter
  rw [String.length_ofList, ← String.length_toList, Nat.not_le] at shorter
  have ends := (Text.trimEnd_eq_iff.mp (rfl : _ = Text.trimEnd isIdle before)).2
  have within : front.toList <+: spell lead (Text.trimEnd isIdle before) := by
    have beginning := isFront.isPrefix
    rw [String.toList_ofList] at beginning
    exact List.prefix_of_prefix_length_le isFront'.isPrefix beginning shorter.le
  have sameStart := isFront'.sameStart.trans isFront.sameStart.symm
  rw [IsAbsolute, IsAbsolute, String.toList_ofList] at sameStart
  have same := eq_spell_of_stepsOf_eq fitsAbove ends within sameStart isFront'.steps_eq
  rw [same] at shorter
  exact lt_irrefl _ shorter

/-- **What is found above a path that is put together from pieces** are the directories above it. -/
theorem ascent_parentsOf {lead : List Char} {pieces : List (List Char)} (fits : Fits lead pieces) :
    Ascent (String.ofList (spell lead pieces)) (parentsOf lead pieces) := by
  have steps_eq {pieces : List (List Char)} (fits : Fits lead pieces)
      (idle : Text.trimEnd isIdle pieces = []) :
      steps (String.ofList (spell lead pieces)) = stepsOf lead := by
    rw [steps, String.toList_ofList, ← stepsOf_spell_trimEnd fits, idle, spell,
      List.intercalate_nil, List.append_nil]
  fun_induction parentsOf lead pieces with
  | case1 pieces idle dot =>
    -- The dot in front is the only step, and the working directory is its parent.
    subst dot
    refine .up ?_ (.top (rfl : steps "" = []))
    rw [IsParent, steps_eq fits idle]
    refine ⟨by decide, ⟨List.nil_prefix, ?_, rfl⟩, fun front _ => Nat.zero_le _⟩
    simp only [IsAbsolute, String.toList_ofList, head?_spell_iff fits]
    decide
  | case2 pieces idle noDot =>
    refine .top ((steps_eq fits idle).trans ?_)
    rcases fits.2 with rfl | ⟨dot, -⟩ | ⟨rfl, -⟩
    · rfl
    · exact absurd dot noDot
    · rfl
  | case3 pieces step rest kept above ih =>
    have above_prefix : above <+: pieces := by
      refine (Text.trimEnd_prefix isIdle _).trans ((List.dropLast_prefix _).trans ?_)
      exact kept ▸ Text.trimEnd_prefix isIdle pieces
    have isParent := isParent_spell fits (kept ▸ List.cons_ne_nil step rest)
    rw [kept] at isParent
    exact .up isParent (ih (fits.of_prefix above_prefix))

/-- **The directories above a path**, of which there is one list. -/
theorem ascent_iff {path : String} {above : List String} :
    Ascent path above ↔ above = parents path := by
  have found : Ascent path (parents path) := by
    obtain ⟨spelled, fits⟩ := spell_splitLead path.toList
    have ascent := ascent_parentsOf fits
    rwa [spelled, String.ofList_toList] at ascent
  constructor
  · intro ascent
    exact ascent.unique found
  · rintro rfl
    exact found

/-- Idle steps and empty ones are left behind with the step before them; the dot in front is one. -/
example : parents "./a//b/./c/." = ["./a//b", "./a", ".", ""] := by decide +kernel

end Calculator.Path
