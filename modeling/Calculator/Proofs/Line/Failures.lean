import Calculator.Proofs.Batch.Run
import Calculator.Proofs.Grammar.Faults
import Calculator.Proofs.Token.Places

/-!
Failures point into their line.

Whatever is wrong with a line, the failure names the line itself and a place in it. Lexing leaves
over the end of the line, which is never empty. Parsing points at one of the tokens, whole, or
behind the last of them if the line ends too early. That holds of a line on its own and of the line
at which a batch ends, as the batch sees it, without carriage returns.

* `SyntaxError.PointsInto`: what the place of an error has to do with the line.
* `pointsInto_of_parse`: every error of parsing points into its line.
* `failure_pointsInto`: and so does every failure, also of a batch.
-/

namespace Calculator

/-- The place of an error in a line. For an error of lexing it is the end of the line that is left
over, for one of parsing a token or the empty place behind the line, and the latter just if the line
ends too early. -/
def SyntaxError.PointsInto (line : String) : SyntaxError → Prop
  | .lexical e =>
    e.span.stop = line.utf8ByteSize ∧ 0 < e.span.length ∧
      ∃ before, line = before ++ e.remainder ∧ before.utf8ByteSize = e.span.offset
  | .grammatical e =>
    ∃ tokens, lex line = .ok tokens ∧
      ((∃ token ∈ tokens, e.span = token.span) ∨ e.span = ⟨line.utf8ByteSize, 0⟩) ∧
      (e.span = ⟨line.utf8ByteSize, 0⟩ ↔ e.fault.reason = "unexpected end of input")

/-- A failure that keeps the line, says in a word what is wrong with it and points into it. -/
def LineFailure.PointsInto (line : String) (failure : LineFailure) : Prop :=
  ∃ error, failure = .malformed line error ∧ error.span.Within line ∧ error.PointsInto line ∧
    LineFailure.note error =
      match error with
      | .lexical _ => "no token matches here"
      | .grammatical e => e.fault.reason

/-- One fault alone is called an unexpected end. -/
theorem ParseFault.reason_eq_iff {fault : ParseFault} :
    fault.reason = "unexpected end of input" ↔ fault = .unexpectedEnd := by
  cases fault with
  | unexpectedEnd => decide
  | operandExpected found => cases found <;> decide
  | trailing found => cases found <;> decide
  | unmatchedParen => decide
  | unclosedParen => decide

variable {line : String} {tokens : List Token}

theorem pointsInto_of_lex {error : LexError} (h : lex line = .error error) :
    error.span.Within line ∧ (SyntaxError.lexical error).PointsInto line := by
  obtain ⟨before, split, offset, -, c, first, -⟩ := lex_eq_error_iff.mp h
  have nonempty : error.remainder ≠ "" := by
    intro empty
    simp [empty] at first
  have within := Span.within_append before error.remainder ""
  rw [String.append_empty, ← split, ← offset] at within
  refine ⟨within, ?_, ?_, before, split, offset.symm⟩
  · rw [split, String.utf8ByteSize_append, ← offset]
    rfl
  · exact Nat.pos_of_ne_zero (mt String.utf8ByteSize_eq_zero_iff.mp nonempty)

theorem pointsInto_of_parseTokens (lexed : lex line = .ok tokens) {error : ParseError}
    (h : parseTokens tokens = .error error) :
    error.span.Within line ∧ (SyntaxError.grammatical error).PointsInto line := by
  have points := parseTokens_pointsAt h
  rw [stop_ofTokens lexed] at points
  cases points with
  | atEnd =>
    have within := Span.within_append line "" ""
    rw [String.append_empty, String.append_empty] at within
    exact ⟨within, tokens, lexed, .inr rfl, iff_of_true rfl rfl⟩
  | @atToken fault token inside member =>
    obtain ⟨before, after, split, span, nonempty⟩ := exists_append_of_lex lexed token member
    have within := Span.within_append before token.text after
    rw [← split, ← span] at within
    -- A token takes a byte at least, so its span is never the empty one at the end.
    have noEnd : token.span ≠ ⟨line.utf8ByteSize, 0⟩ := by
      intro atEnd
      simp [atEnd] at nonempty
    exact ⟨within, tokens, lexed, .inl ⟨token, member, rfl⟩,
      iff_of_false noEnd (mt ParseFault.reason_eq_iff.mp inside)⟩

/-- **Every error of parsing points into its line.** -/
theorem pointsInto_of_parse {error : SyntaxError} (h : parse line = .error error) :
    error.span.Within line ∧ error.PointsInto line := by
  obtain ⟨e, lexed, rfl⟩ | ⟨tokens, e, lexed, parsed, rfl⟩ := parse_eq_error.mp h
  · exact pointsInto_of_lex lexed
  · exact pointsInto_of_parseTokens lexed parsed

theorem pointsInto_of_evaluateLine {settings : OutputSettings} {failure : LineFailure}
    (h : evaluateLine settings line = .error failure) : failure.PointsInto line := by
  obtain ⟨error, parsed, rfl⟩ := evaluateLine_eq_error.mp h
  obtain ⟨within, points⟩ := pointsInto_of_parse parsed
  exact ⟨error, rfl, within, points, by cases error <;> rfl⟩

/-- **Every failure points into its line.** The failure of a line is never that the line has no
value: it keeps the line and points at a place in it. And if a batch fails on a file that can be
read, it does so with the failure of one of the lines of the file, which points into that line. -/
theorem failure_pointsInto (settings : OutputSettings) :
    (∀ line failure, evaluateLine settings line = .error failure →
      failure.PointsInto line ∧ ∀ error, failure ≠ .unfoldable error) ∧
    ∀ files path failure, (runBatch files settings path).conclusion = .failed failure →
      (∃ fault, failure = .unreadable path fault) ∨
        ∃ text before line after nested, files.read path = .ok text.toByteArray ∧
          IsLines text (before ++ line :: after) ∧
          failure = .batch path (before.length + 1) nested ∧
          evaluateLine settings line = .error nested ∧ nested.PointsInto line := by
  refine ⟨?line, ?batch⟩
  case line =>
    intro line failure h
    refine ⟨pointsInto_of_evaluateLine h, ?_⟩
    rintro error rfl
    obtain ⟨e, -, same⟩ := evaluateLine_eq_error.mp h
    cases same
  case batch =>
    intro files path failure h
    cases read : files.readText path with
    | error fault =>
      rw [runBatch_of_unreadable read] at h
      cases h
      exact .inl ⟨fault, rfl⟩
    | ok text =>
      have readable := Files.readText_eq_ok.mp read
      have isLines := isLines_expressions text
      rw [runBatch_of_isLines readable isLines] at h
      obtain ⟨before, outs, -, ⟨-, report⟩ | ⟨line, after, conclusion, split, ends, report⟩⟩ :=
        exists_runLines_eq settings path 1 (expressions text)
      · rw [report] at h
        cases h
      · rw [split, report] at h
        cases h
        rw [Nat.add_comm] at ends
        cases ends with
        | @failed nested fails =>
          exact .inr ⟨text, before, line, after, nested, readable, split ▸ isLines, rfl, fails.2,
            pointsInto_of_evaluateLine fails.2⟩

/-- A character of two bytes that begins no token, a line without anything in it, and a batch with a
group that is not closed in its second line. -/
theorem failure_pointsInto_each_way :
    let bytes := "7\n2*(1\r\r".toByteArray
    let files : Files := ⟨fun _ => false, fun _ => true, fun _ => .ok bytes⟩
    let letter : LineFailure := .malformed "1+é2" (.lexical ⟨"é2", 2⟩)
    let nothing : LineFailure := .malformed "" (.grammatical ⟨.unexpectedEnd, ⟨0, 0⟩⟩)
    let group : LineFailure := .malformed "2*(1" (.grammatical ⟨.unclosedParen, ⟨2, 1⟩⟩)
    (evaluateLine {} "1+é2" = .error letter ∧ letter.PointsInto "1+é2") ∧
      (evaluateLine {} "" = .error nothing ∧ nothing.PointsInto "") ∧
      (runBatch files {} "sums").conclusion = .failed (.batch "sums" 2 group) ∧
        group.PointsInto "2*(1" := by
  intro bytes files letter nothing group
  have letterFails : evaluateLine {} "1+é2" = .error letter := by decide +kernel
  have fails {line : String} {tokens : List Token} {error : ParseError}
      (lexed : lex line = .ok tokens) (refused : parseTokens tokens = .error error) :
      evaluateLine {} line = .error (.malformed line (.grammatical error)) :=
    evaluateLine_eq_error.mpr
      ⟨_, parse_eq_error.mpr (.inr ⟨tokens, error, lexed, refused, rfl⟩), rfl⟩
  have noTokens : lex "" = .ok [] := by decide +kernel
  have nothingFails : evaluateLine {} "" = .error nothing := fails noTokens (by cbv)
  have seven : evaluateLine {} "7" = .ok (some "7") := by
    let e : Expression := .mk (.mk (.number "7") .empty) .empty
    exact evaluateLine_eq_ok.mpr
      ⟨e, parse_eq_ok_iff.mpr ⟨by decide, by decide⟩, by decide +kernel⟩
  have groupFails : Fails {} "2*(1" group := by
    let tokens : List Token :=
      [⟨.number, "2", ⟨0, 1⟩⟩, ⟨.star, "*", ⟨1, 1⟩⟩, ⟨.openParen, "(", ⟨2, 1⟩⟩,
        ⟨.number, "1", ⟨3, 1⟩⟩]
    have lexed : lex "2*(1" = .ok tokens := by decide +kernel
    have refused : parseTokens tokens = .error ⟨.unclosedParen, ⟨2, 1⟩⟩ := by cbv
    exact ⟨by decide, fails lexed refused⟩
  have first : Writes {} ["7"] ["7"] := .cons seven .nil
  have isLines : IsLines "7\n2*(1\r\r" ["7", "2*(1"] := isLines_iff.mpr (by decide)
  have report : (runBatch files {} "sums").conclusion = .failed (.batch "sums" 2 group) := by
    rw [runBatch_of_isLines rfl isLines, ← List.singleton_append, runLines_append first,
      runLines_of_ends (.failed groupFails)]
    rfl
  refine ⟨⟨letterFails, ((failure_pointsInto {}).1 _ _ letterFails).1⟩,
    ⟨nothingFails, ((failure_pointsInto {}).1 _ _ nothingFails).1⟩, report, ?_⟩
  obtain ⟨fault, unreadable⟩ | ⟨text, before, line, after, nested, -, -, same, failed, points⟩ :=
    (failure_pointsInto {}).2 files "sums" _ report
  · cases unreadable
  · obtain ⟨-, -, rfl⟩ := Failure.batch.inj same
    obtain ⟨error, -, whole⟩ := evaluateLine_eq_error.mp failed
    obtain ⟨rfl, -⟩ := LineFailure.malformed.inj whole
    exact points

end Calculator
