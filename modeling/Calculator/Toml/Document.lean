import Calculator.Toml.Scalar

/-!
TOML documents.

A document is a sequence of lines: a key with its value, the header of a table, the header of one
more table of an array, or nothing but a comment. The lines are worked into one table of entries as
they come; a line that would give a key a second meaning makes the document invalid.
-/

namespace Calculator.Toml

open Reader

/-- A key with its value, without the end of the line. -/
def assignment (value : Reader Value) : Reader (List String × Value) := do
  let path ← key
  literal "="
  blanks
  let v ← value
  pure (path, v)

/-- The items of an array. The last may have a comma behind it, and lines may end between them. -/
def arrayItems (value : Reader Value) : Reader Value := do
  literal "["
  let items ← (do
      let items ← separated (literal ",") (gap *> value <* gap)
      discard (optional (literal ","))
      pure items)
    <|> pure []
  gap
  literal "]"
  pure (.array items)

/-- The entries of a table in braces, all on one line and without a comma behind the last. -/
def inlineEntries (value : Reader Value) : Reader Value := do
  literal "\x7b"
  let assignments ← separated (literal ",") (assignment value <* blanks) <|> (blanks *> pure [])
  literal "\x7d"
  match assignments.foldlM (fun entries (path, v) => Entries.assign? entries path v) [] with
  | some entries => pure (.table .inline entries)
  | none => failure

/-- A value in which arrays and tables nest at most `depth` deep. -/
def value : Nat → Reader Value
  | 0 => scalar
  | depth + 1 => arrayItems (value depth) <|> inlineEntries (value depth) <|> scalar

/-- What a line of a document says. -/
inductive Line where
  | blank
  | assign (path : List String) (value : Value)
  | openTable (path : List String)
  | appendTable (path : List String)

/-- One line with its end. -/
def line : Reader Line := do
  blanks
  let line ←
    (.appendTable <$> (literal "[[" *> key <* literal "]]"))
    <|> (.openTable <$> (literal "[" *> key <* literal "]"))
    <|> ((fun (path, v) => .assign path v) <$> assignment (value nestingLimit))
    <|> pure .blank
  lineEnd
  pure line

/-- What the lines so far amount to: the entries of the document, and the table that keys go to. -/
structure State where
  entries : Entries
  current : List String

/-- Works a line in. -/
def State.add? (s : State) : Line → Option State
  | .blank => some s
  | .assign path v => do
    let entries ← s.entries.update? .passed s.current (·.assign? path v)
    some { s with entries }
  | .openTable path => do
    let entries ← s.entries.openTable? path
    some ⟨entries, path⟩
  | .appendTable path => do
    let entries ← s.entries.appendTable? path
    some ⟨entries, path⟩

/-- The lines of a document, which may begin with a byte order mark. -/
def lines? (text : String) : Option (List Line) := do
  let cs := match text.toList with
    | '\ufeff' :: cs => cs
    | cs => cs
  let (lines, rest) ← many line cs
  if rest.isEmpty then some lines else none

/-- The entries of a document, if it is a valid one. -/
def read? (text : String) : Option Entries := do
  let state ← (← lines? text).foldlM State.add? ⟨[], []⟩
  some state.entries

end Calculator.Toml
