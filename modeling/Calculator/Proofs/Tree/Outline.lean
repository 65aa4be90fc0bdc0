import Calculator.Proofs.Line.Stages
import Calculator.Proofs.Text.Quoting

/-!
The outline of a tree tells the tree.

An outline has a line for each node and each leaf. What is written of it begins with a character
that is no blank, so the blanks before it tell how deep it stands; and since a leaf is between
quotes and holds no line feed there, neither can its text pass for a label nor can it break its
line. From the depths the nesting can be made out: the children of a node are what follows it, up to
the next line that stands no deeper. All that an outline does not tell is which mark a leaf is,
beyond its text. Of a tree without an outline, nothing is told.

* `Tree.splitOn_outline`: the lines of an outline.
* `Tree.alike_of_preorder`: the tree, read back from its lines.
* `Tree.outline?_eq_iff`: trees with the same outline.
* `Tree.trimBlanks_outline`: trimming an outline takes the last line feed and nothing else.
* `outline_faithful`: all of this, and outlines as they are shown.
* `exists_parse_without_outline`: a text that parses to a tree without an outline.
-/

namespace Calculator

/-! ### Names of labels -/

theorem Label.name_injective {label label' : Label} (same : label.name = label'.name) :
    label = label' := by
  cases label <;> cases label' <;> first | rfl | exact absurd same (by decide)

/-- A name begins with a letter. -/
theorem Label.exists_name_eq_cons (label : Label) :
    ∃ c cs, label.name.toList = c :: cs ∧ c ≠ ' ' ∧ c ≠ '"' := by
  cases label <;> exact ⟨_, _, by rw [name, String.toList_ofList], by decide, by decide⟩

/-- A name ends with a letter. -/
theorem Label.exists_name_eq_concat (label : Label) :
    ∃ cs c, label.name.toList = cs ++ [c] ∧ Text.isBlank c = false := by
  have nonempty : label.name.toList ≠ [] := by cases label <;> decide
  exact ⟨_, _, (List.dropLast_append_getLast nonempty).symm, by cases label <;> rfl⟩

theorem Label.lineFeed_notMem_name (label : Label) : '\n' ∉ label.name.toList := by
  cases label <;> decide

namespace Tree

/-! ### The lines of an outline -/

/-- The line that tells a depth and a heading. -/
def line (tale : Nat × String) : List Char :=
  List.replicate (2 * tale.1) ' ' ++ tale.2.toList

mutual

/-- A tree has an entry for each node and one for each leaf. -/
theorem length_preorder (depth : Nat) : ∀ t : Tree,
    (t.preorder depth).length = t.nodeCount + t.leaves.length
  | .leaf l => by simp [preorder, nodeCount, leaves]
  | .node label children => by
    rw [preorder, List.length_cons, length_preorderOf, nodeCount, leaves]
    omega

/-- Several trees have an entry for each of their nodes and leaves. -/
theorem length_preorderOf (depth : Nat) : ∀ ts : List Tree,
    (preorderOf depth ts).length = nodeCountOf ts + (leavesOf ts).length
  | [] => rfl
  | t :: ts => by
    rw [preorderOf, List.length_append, length_preorder, length_preorderOf, nodeCountOf, leavesOf,
      List.length_append]
    omega

end

/-- An outline ends every line. -/
theorem toList_outline {t : Tree} {outline : String} (written : t.outline? = some outline) :
    outline.toList = (((t.preorder 0).map told).map line).flatMap (· ++ ['\n']) := by
  unfold outline? at written
  split at written
  · cases written
    rw [String.toList_join, outlineLines_eq, List.append_nil]
    simp [outlineLine, line, indent, List.flatMap_map]
  · cases written

/-- No heading breaks its line. -/
theorem lineFeed_notMem_heading (t : Tree) : '\n' ∉ t.heading.toList := by
  cases t with
  | leaf l => exact Text.lineFeed_notMem_quote l.text
  | node label _ => exact label.lineFeed_notMem_name

theorem lineFeed_notMem_line (entry : Nat × Tree) : '\n' ∉ line (told entry) := by
  simp [line, told, lineFeed_notMem_heading]

/-- **An outline has one line for each node and leaf**, parents before children. -/
theorem splitOn_outline {t : Tree} {outline : String} (written : t.outline? = some outline) :
    outline.toList.splitOn '\n' = ((t.preorder 0).map told).map line ++ [[]] := by
  rw [toList_outline written, Text.splitOn_flatMap]
  simp only [List.forall_mem_map]
  exact fun entry _ => lineFeed_notMem_line entry

/-! ### Lines read back -/

/-- The depth and the heading that a line tells. -/
def readLine (line : List Char) : Nat × String :=
  ((line.takeWhile (· = ' ')).length / 2, String.ofList (line.dropWhile (· = ' ')))

/-- A heading has something in it and begins with no blank. -/
theorem exists_heading_eq_cons (t : Tree) :
    ∃ c cs, t.heading.toList = c :: cs ∧ c ≠ ' ' := by
  cases t with
  | leaf l => exact ⟨'"', _, Text.toList_quote l.text, by decide⟩
  | node label _ =>
    obtain ⟨c, cs, name, noBlank, -⟩ := label.exists_name_eq_cons
    exact ⟨c, cs, name, noBlank⟩

/-- **A line is read back.** -/
theorem readLine_line (entry : Nat × Tree) : readLine (line (told entry)) = told entry := by
  obtain ⟨c, cs, heading, noBlank⟩ := entry.2.exists_heading_eq_cons
  have blanks : ∀ d ∈ List.replicate (2 * entry.1) ' ', decide (d = ' ') = true := by simp
  have written : String.ofList (c :: cs) = entry.2.heading := by
    rw [← heading, String.ofList_toList]
  rw [readLine, line, told, List.takeWhile_append_of_pos blanks,
    List.dropWhile_append_of_pos blanks, heading]
  simp [noBlank, written]

/-- No label is written like a leaf. -/
theorem quote_ne_name (text : String) (label : Label) : Text.quote text ≠ label.name := by
  intro same
  obtain ⟨c, cs, name, -, noQuote⟩ := label.exists_name_eq_cons
  rw [← same, Text.toList_quote] at name
  exact noQuote (List.cons.inj name).1.symm

/-! ### Trees read back -/

/-- The two trees have the same shape and the same labels, and the same texts for their leaves. -/
inductive Alike : Tree → Tree → Prop where
  | leaf {l l' : Leaf} (text : l.text = l'.text) : Alike (.leaf l) (.leaf l')
  | node (label : Label) {children children' : List Tree}
      (below : List.Forall₂ Alike children children') :
      Alike (.node label children) (.node label children')

/-- Trees that are alike have as many children, one like the other. -/
theorem Alike.children {t t' : Tree} (alike : t.Alike t') :
    List.Forall₂ Alike t.children t'.children := by
  cases alike with
  | leaf _ => exact .nil
  | node _ below => exact below

/-- The entries, if there are any, begin above a depth. -/
def Above (depth : Nat) (entries : List (Nat × String)) : Prop :=
  ∀ entry ∈ entries.head?, entry.1 < depth

/-- What is told of several trees begins with the first of them. -/
theorem exists_preorderOf_eq_cons (depth : Nat) (t : Tree) (ts : List Tree)
    (rest : List (Nat × String)) :
    ∃ entries, (preorderOf depth (t :: ts)).map told ++ rest = (depth, t.heading) :: entries := by
  cases t <;> exact ⟨_, by rw [preorderOf, preorder]; rfl⟩

/-- Trees stand no deeper than a tree before them. -/
theorem Above.preorderOf {depth : Nat} {rest : List (Nat × String)} (above : Above depth rest)
    (ts : List Tree) : Above (depth + 1) ((preorderOf depth ts).map told ++ rest) := by
  cases ts with
  | nil => exact fun entry first => Nat.lt_succ_of_lt (above entry first)
  | cons t ts =>
    obtain ⟨entries, begins⟩ := exists_preorderOf_eq_cons depth t ts rest
    rw [begins]
    rintro entry ⟨⟩
    exact Nat.lt_succ_self depth

/-- What begins above a depth does not begin with a tree at that depth. -/
theorem Above.ne_preorderOf {depth : Nat} {rest : List (Nat × String)} (above : Above depth rest)
    (t : Tree) (ts : List Tree) (rest' : List (Nat × String)) :
    rest ≠ (Tree.preorderOf depth (t :: ts)).map told ++ rest' := by
  rintro rfl
  obtain ⟨entries, begins⟩ := exists_preorderOf_eq_cons depth t ts rest'
  rw [begins] at above
  exact absurd (above _ rfl) (Nat.lt_irrefl depth)

mutual

/-- What is told of a tree tells the tree, and where what follows it begins, which is no deeper. -/
theorem alike_of_preorder (depth : Nat) : ∀ (t t' : Tree) {rest rest' : List (Nat × String)},
    Above (depth + 1) rest → Above (depth + 1) rest' →
      (t.preorder depth).map told ++ rest = (t'.preorder depth).map told ++ rest' →
        t.Alike t' ∧ rest = rest'
  | .leaf l, .leaf l', rest, rest', _, _, same => by
    obtain ⟨here, following⟩ := List.cons.inj same
    exact ⟨.leaf (Text.quote_injective (Prod.mk.inj here).2), following⟩
  | .leaf l, .node label' children', rest, rest', _, _, same =>
    absurd (Prod.mk.inj (List.cons.inj same).1).2 (quote_ne_name l.text label')
  | .node label children, .leaf l', rest, rest', _, _, same =>
    absurd (Prod.mk.inj (List.cons.inj same).1).2.symm (quote_ne_name l'.text label)
  | .node label children, .node label' children', rest, rest', above, above', same => by
    obtain ⟨here, below⟩ := List.cons.inj same
    obtain rfl := Label.name_injective (Prod.mk.inj here).2
    obtain ⟨alike, following⟩ :=
      alike_of_preorderOf (depth + 1) children children' above above' below
    exact ⟨.node label alike, following⟩

/-- What is told of several trees at a depth tells the trees, if what follows them begins above. -/
theorem alike_of_preorderOf (depth : Nat) : ∀ (ts ts' : List Tree)
    {rest rest' : List (Nat × String)}, Above depth rest → Above depth rest' →
      (preorderOf depth ts).map told ++ rest = (preorderOf depth ts').map told ++ rest' →
        List.Forall₂ Alike ts ts' ∧ rest = rest'
  | [], [], rest, rest', _, _, same => ⟨.nil, same⟩
  | [], t' :: ts', rest, rest', above, _, same => absurd same (above.ne_preorderOf t' ts' rest')
  | t :: ts, [], rest, rest', _, above', same => absurd same.symm (above'.ne_preorderOf t ts rest)
  | t :: ts, t' :: ts', rest, rest', above, above', same => by
    rw [preorderOf, preorderOf, List.map_append, List.map_append, List.append_assoc,
      List.append_assoc] at same
    obtain ⟨alike, others⟩ :=
      alike_of_preorder depth t t' (above.preorderOf ts) (above'.preorderOf ts') same
    obtain ⟨alikes, following⟩ := alike_of_preorderOf depth ts ts' above above' others
    exact ⟨.cons alike alikes, following⟩

end

mutual

/-- Of trees that are alike the same is told. -/
theorem map_told_of_alike (depth : Nat) : ∀ (t t' : Tree), t.Alike t' →
    (t.preorder depth).map told = (t'.preorder depth).map told
  | .leaf l, .leaf l', .leaf text => by simp [preorder, told, heading, text]
  | .node label children, .node _ children', .node _ below => by
    simp [preorder, told, heading, map_told_of_alikes (depth + 1) children children' below]

theorem map_told_of_alikes (depth : Nat) : ∀ (ts ts' : List Tree), List.Forall₂ Alike ts ts' →
    (preorderOf depth ts).map told = (preorderOf depth ts').map told
  | [], [], _ => rfl
  | t :: ts, t' :: ts', .cons alike alikes => by
    rw [preorderOf, preorderOf, List.map_append, List.map_append,
      map_told_of_alike depth t t' alike, map_told_of_alikes depth ts ts' alikes]

end

/-- What is told of a tree is read off the lines of its outline, and is all that they hold. -/
theorem outline?_eq_iff_told {t t' : Tree} {outline : String}
    (written : t.outline? = some outline) :
    t'.outline? = some outline ↔ (t.preorder 0).map told = (t'.preorder 0).map told := by
  constructor
  · intro written'
    have lines := (splitOn_outline written).symm.trans (splitOn_outline written')
    have read := congrArg (List.map readLine) (List.append_cancel_right lines)
    simpa [List.map_map, Function.comp_def, readLine_line] using read
  · intro same
    have lines : t'.outlineLines 0 [] = t.outlineLines 0 [] := by
      rw [outlineLines_eq, outlineLines_eq, same]
    have indentable : t'.Indentable ↔ t.Indentable := by rw [Indentable, lines, Indentable]
    rw [← written]
    simp only [outline?, indentable, lines]

/-- **Trees with the same outline are alike**, and the other way round. -/
theorem outline?_eq_iff {t t' : Tree} {outline : String} (written : t.outline? = some outline) :
    t'.outline? = some outline ↔ t.Alike t' := by
  rw [outline?_eq_iff_told written]
  refine ⟨fun same => ?_, map_told_of_alike 0 t t'⟩
  have nothing : Above 1 [] := by simp [Above]
  exact (alike_of_preorder 0 t t' nothing nothing (by simpa using same)).1

/-! ### Outlines without their end -/

/-- A heading ends with a character that leaves no blank. -/
theorem exists_heading_eq_concat (t : Tree) :
    ∃ cs c, t.heading.toList = cs ++ [c] ∧ Text.isBlank c = false := by
  cases t with
  | leaf l =>
    exact ⟨'"' :: l.text.toList.flatMap Text.quoteChar, '"', Text.toList_quote l.text, by decide⟩
  | node label _ => exact label.exists_name_eq_concat

/-- **Trimming an outline takes the last line feed** and nothing else. -/
theorem trimBlanks_outline {t : Tree} {outline : String} (written : t.outline? = some outline) :
    Text.trimBlanks outline ++ "\n" = outline := by
  obtain nothing | ⟨entries, last, split⟩ := List.eq_nil_or_concat (t.preorder 0)
  · cases t <;> simp [preorder] at nothing
  obtain ⟨cs, c, heading, noBlank⟩ := last.2.exists_heading_eq_concat
  let front := ((entries.map told).map line).flatMap (· ++ ['\n']) ++
    (List.replicate (2 * last.1) ' ' ++ cs) ++ [c]
  have ends : outline.toList = front ++ ['\n'] := by
    rw [toList_outline written, split]
    simp [front, told, line, heading]
  have trimmed : Text.trimEnd Text.isBlank outline.toList = front := by
    refine Text.trimEnd_eq_iff.mpr ⟨⟨['\n'], ends, List.forall_mem_singleton.mpr (by decide)⟩, ?_⟩
    simpa [front] using noBlank
  rw [← String.toList_inj, Text.trimBlanks, trimmed, String.toList_append, String.toList_ofList,
    ends]
  rfl

mutual

/-- Trees that are alike have the same texts for their leaves, in order. -/
theorem map_text_of_alike : ∀ t t' : Tree, t.Alike t' →
    t.leaves.map Leaf.text = t'.leaves.map Leaf.text
  | .leaf l, .leaf l', .leaf text => by simp [leaves, text]
  | .node label children, .node _ children', .node _ below => by
    rw [leaves, leaves, map_text_of_alikes children children' below]

theorem map_text_of_alikes : ∀ ts ts' : List Tree, List.Forall₂ Alike ts ts' →
    (leavesOf ts).map Leaf.text = (leavesOf ts').map Leaf.text
  | [], [], _ => rfl
  | t :: ts, t' :: ts', .cons alike alikes => by
    rw [leavesOf, leavesOf, List.map_append, List.map_append, map_text_of_alike t t' alike,
      map_text_of_alikes ts ts' alikes]

end

end Tree

/-! ### Outlines that are shown -/

/-- The tree of a text that parses is shown as its outline, but for the end of the last line. -/
theorem Stage.exists_render_tree {text outline : String} {e : Expression}
    (parsed : parse text = .ok e) (written : e.toTree.outline? = some outline) :
    ∃ shown, tree.render text = .ok (some shown) ∧ shown ++ "\n" = outline := by
  refine ⟨Text.trimBlanks outline, ?_, Tree.trimBlanks_outline written⟩
  rw [render_tree, parsed, Except.map, written]
  rfl

/-- **No two texts are shown with the same outline.** -/
theorem Stage.render_tree_injective {a b shown : String} (ha : tree.render a = .ok (some shown))
    (hb : tree.render b = .ok (some shown)) : a = b := by
  have outlined {text : String} (h : tree.render text = .ok (some shown)) :
      ∃ e, parse text = .ok e ∧ e.toTree.outline? = some (shown ++ "\n") := by
    rw [render_tree] at h
    obtain ⟨e, parsed, trimmed⟩ := map_eq_ok.mp h
    obtain ⟨outline, written, rfl⟩ := Option.map_eq_some_iff.mp trimmed
    exact ⟨e, parsed, written.trans (congrArg some (Tree.trimBlanks_outline written).symm)⟩
  obtain ⟨e, parsed, written⟩ := outlined ha
  obtain ⟨e', parsed', written'⟩ := outlined hb
  have alike := (Tree.outline?_eq_iff written).mp written'
  calc a = e.toTree.text := (parse_eq_ok_iff.mp parsed).1
    _ = e'.toTree.text := congrArg String.join (Tree.map_text_of_alike _ _ alike)
    _ = b := (parse_eq_ok_iff.mp parsed').1.symm

/-- **An outline tells its tree.** A tree has an outline unless a node or a leaf stands deeper in it
than 32767 levels below the root. The outline, whatever the texts of the leaves are, has one line
for each node and each leaf, parents before children, and every line is two blanks for each level
and then the label, or the text of the leaf between quotes. The trees with the same outline are
those that have the same shape and the same labels, and the same texts for their leaves. The tree of
a text that parses is shown as its outline, without the one line feed at the end, and no other text
is shown in the same way; if it has no outline, it is not shown. -/
theorem outline_faithful (t : Tree) (text : String) :
    (t.outline? = none ↔ ∃ entry ∈ t.preorder 0, 32767 < entry.1) ∧
    (∀ outline, t.outline? = some outline →
      outline.toList.splitOn '\n' =
          ((t.preorder 0).map fun (depth, u) =>
            List.replicate (2 * depth) ' ' ++ u.heading.toList) ++ [[]] ∧
        (t.preorder 0).length = t.nodeCount + t.leaves.length ∧
        ∀ t' : Tree, t'.outline? = some outline ↔ t.Alike t') ∧
    (∀ e, parse text = .ok e →
      (∀ outline, e.toTree.outline? = some outline →
        ∃ shown, Stage.tree.render text = .ok (some shown) ∧ shown ++ "\n" = outline) ∧
      (e.toTree.outline? = none → Stage.tree.render text = .ok none)) ∧
    ∀ text' shown, Stage.tree.render text = .ok (some shown) →
      Stage.tree.render text' = .ok (some shown) → text = text' := by
  refine ⟨?deep, fun outline written => ⟨?lines, t.length_preorder 0, ?trees⟩,
    fun e parsed => ⟨?shown, ?hidden⟩, ?alone⟩
  case deep =>
    simp only [Tree.outline?_eq_none_iff, Tree.indentable_iff, not_forall, Nat.not_le, exists_prop]
  case lines =>
    rw [Tree.splitOn_outline written, List.map_map]
    rfl
  case trees => exact fun t' => Tree.outline?_eq_iff written
  case shown => exact fun outline => Stage.exists_render_tree parsed
  case hidden =>
    rw [Stage.render_tree_eq_none_iff parsed, e.outline?_eq_none_iff]
    exact id
  case alone => exact fun text' shown => Stage.render_tree_injective

/-- A number with a line feed and what looks like a label behind it stays on its line, so its tree
is not mistaken for one with a node in that place. And the outline of a negated number is shown for
no other text. -/
theorem outline_faithful_line_break_in_leaf :
    let t : Tree := .node .factor [.leaf (.number "1\n  B")]
    let t' : Tree := .node .factor [.leaf (.number "1"), .node .productTail []]
    let e : Expression := .mk (.mk (.negation (.number "7")) .empty) .empty
    (∃ outline, t.outline? = some outline ∧ (outline.toList.splitOn '\n').length = 3 ∧
        t'.outline? ≠ some outline) ∧
      parse "-7" = .ok e ∧ ∃ shown, Stage.tree.render "-7" = .ok (some shown) ∧
        e.toTree.outline? = some (shown ++ "\n") ∧
        ∀ b, Stage.tree.render b = .ok (some shown) → b = "-7" := by
  intro t t' e
  have parsed : parse "-7" = .ok e := parse_eq_ok_iff.mpr ⟨by decide, by decide⟩
  obtain ⟨deep, faithful, -, -⟩ := outline_faithful t "-7"
  obtain ⟨deep', -, shows, alone⟩ := outline_faithful e.toTree "-7"
  refine ⟨?_, parsed, ?_⟩
  · have shallow : t.outline? ≠ none := by
      rw [Ne, deep]
      decide
    obtain ⟨outline, written⟩ := Option.ne_none_iff_exists'.mp shallow
    obtain ⟨lines, -, alike⟩ := faithful outline written
    refine ⟨outline, written, ?_, ?_⟩
    · rw [lines]
      rfl
    · rw [Ne, alike t']
      exact fun same => absurd same.children.length_eq (by decide)
  · have shallow : e.toTree.outline? ≠ none := by
      rw [Ne, deep']
      decide
    obtain ⟨outline, written⟩ := Option.ne_none_iff_exists'.mp shallow
    obtain ⟨shown, rendered, ended⟩ := (shows e parsed).1 outline written
    exact ⟨shown, rendered, by rw [written, ended],
      fun b same => (alone b shown rendered same).symm⟩

/-- **A text that parses to a tree without an outline.** The number behind 32765 minus signs stands
too deep for a line. -/
theorem exists_parse_without_outline :
    let text := String.ofList (List.replicate 32765 '-' ++ ['1'])
    ∃ e, parse text = .ok e ∧ e.toTree.outline? = none ∧ Stage.tree.render text = .ok none := by
  intro text
  obtain ⟨e, parsed, height⟩ := parse_minuses 32765
  have high : 32767 < e.toTree.height := by
    rw [height]
    decide
  exact ⟨e, parsed, e.outline?_eq_none_iff.mpr high,
    (Stage.render_tree_eq_none_iff parsed).mpr high⟩

end Calculator
