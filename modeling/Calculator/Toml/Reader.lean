/-!
Readers: functions that take something off the front of a text, or fail.

A reader that fails takes nothing, so another one can be tried in its place. `many` repeats a reader
for as long as it succeeds and takes something, and hence ends for every reader.
-/

namespace Calculator.Toml

/-- Takes an `α` off the front of a text. -/
abbrev Reader (α : Type) := StateT (List Char) Option α

namespace Reader

variable {α β : Type}

/-- Takes a character of the given kind. -/
def char (p : Char → Bool) : Reader Char := fun
  | c :: cs => if p c then some (c, cs) else none
  | [] => none

/-- Takes exactly this text. -/
def literal (text : String) : Reader Unit :=
  text.toList.forM fun c => discard (char (· == c))

/-- Takes all characters of the given kind that come next. -/
def run (p : Char → Bool) : Reader (List Char) := fun cs => some (cs.takeWhile p, cs.dropWhile p)

/-- Takes all characters of the given kind that come next, at least one. -/
def run1 (p : Char → Bool) : Reader (List Char) := do
  let c ← char p
  let cs ← run p
  pure (c :: cs)

/-- Takes exactly `n` characters of the given kind. -/
def exactly (n : Nat) (p : Char → Bool) : Reader (List Char) :=
  (List.replicate n p).mapM char

/-- Succeeds at the end of the text. -/
def atEnd : Reader Unit := fun
  | [] => some ((), [])
  | _ :: _ => none

/-- Succeeds where the reader fails, and takes nothing. -/
def except (p : Reader α) : Reader Unit := fun cs =>
  match p cs with
  | some _ => none
  | none => some ((), cs)

/-- Repeats a reader for as long as it succeeds and takes something. -/
def many (p : Reader α) (cs : List Char) : Option (List α × List Char) :=
  match p cs with
  | none => some ([], cs)
  | some (a, rest) =>
    if rest.length < cs.length then
      (many p rest).map fun (as, rest) => (a :: as, rest)
    else some ([], cs)
termination_by cs.length

/-- What `p` reads, once and then again behind each separator. -/
def separated (separator : Reader β) (p : Reader α) : Reader (List α) := do
  let a ← p
  let as ← many (separator *> p)
  pure (a :: as)

end Reader

end Calculator.Toml
