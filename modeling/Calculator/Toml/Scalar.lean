import Calculator.Number.Reading
import Calculator.Toml.Reader
import Calculator.Toml.Value

/-!
The parts of a TOML document that hold no other values: blanks and comments, strings, keys, numbers,
truth values, dates and times.
-/

namespace Calculator.Toml

open Reader

/-! ### Blanks -/

/-- A space or tab. -/
def isBlank (c : Char) : Bool := c == ' ' || c == '\t'

/-- Beyond ASCII. -/
def isForeign (c : Char) : Bool := 0x80 ≤ c.toNat

/-- Neither a control, other than the tab, nor a line end. -/
def isText (c : Char) : Bool := c == '\t' || (' ' ≤ c && c ≤ '~') || isForeign c

/-- Spaces and tabs, if any. -/
def blanks : Reader Unit := discard (run isBlank)

/-- A line feed, alone or behind a carriage return. -/
def newline : Reader Unit := literal "\n" <|> literal "\r\n"

/-- A comment, up to the end of its line. -/
def comment : Reader Unit := do
  literal "#"
  discard (run isText)

/-- The rest of a line that says nothing more. -/
def lineEnd : Reader Unit := do
  blanks
  discard (optional comment)
  newline <|> atEnd

/-- Blanks, line ends and comments. -/
def gap : Reader Unit :=
  discard (many (discard (char isBlank) <|> newline <|> (comment *> newline)))

/-! ### Strings -/

/-- A hexadecimal digit, in either case. -/
def isHexDigit (c : Char) : Bool := c.isDigit || ('a' ≤ c && c ≤ 'f') || ('A' ≤ c && c ≤ 'F')

/-- The value of a hexadecimal digit. -/
def hexDigitValue (c : Char) : Nat :=
  if c.isDigit then c.toNat - '0'.toNat else c.toLower.toNat - 'a'.toNat + 10

/-- The value of digits in a base up to sixteen. -/
def valueInBase (base : Nat) (digits : List Char) : Nat :=
  digits.foldl (fun n c => base * n + hexDigitValue c) 0

/-- A code point written with `n` hexadecimal digits. -/
def codePoint (n : Nat) : Reader Char := do
  let value := valueInBase 16 (← exactly n isHexDigit)
  guard value.isValidChar
  pure (Char.ofNat value)

/-- What follows a backslash to stand for a character. -/
def escape : Reader Char := do
  match ← char fun _ => true with
  | 'b' => pure '\x08'
  | 't' => pure '\t'
  | 'n' => pure '\n'
  | 'f' => pure '\x0c'
  | 'r' => pure '\r'
  | '"' => pure '"'
  | '\\' => pure '\\'
  | 'u' => codePoint 4
  | 'U' => codePoint 8
  | _ => failure

/-- A character of a string in double quotes. -/
def basicChar : Reader Char :=
  char (fun c => isText c && c != '"' && c != '\\') <|> (literal "\\" *> escape)

/-- A character of a string in single quotes. -/
def literalChar : Reader Char := char fun c => isText c && c != '\''

/-- A string on one line, in quotes of either kind. -/
def lineString : Reader String :=
  (do
    literal "\""
    let cs ← many basicChar
    literal "\""
    pure (String.ofList cs))
  <|> (do
    literal "'"
    let cs ← many literalChar
    literal "'"
    pure (String.ofList cs))

/-- A quote inside a string between tripled quotes: one that does not begin the closing three. -/
def innerQuote (quote : Char) : Reader (List Char) := do
  except (exactly 3 (· == quote))
  pure [← char (· == quote)]

/-- A string between tripled quotes whose other parts `part` reads. A line end right behind the
opening quotes is dropped, and up to two quotes may stand before the closing three. -/
def blockString (quote : Char) (part : Reader (List Char)) : Reader String := do
  discard (exactly 3 (· == quote))
  discard (optional newline)
  let parts ← many (part <|> (newline *> pure ['\n']) <|> innerQuote quote)
  discard (exactly 3 (· == quote))
  let extra ← optional (char (· == quote))
  let extra' ← optional (char (· == quote))
  pure (String.ofList (parts.flatten ++ extra.toList ++ extra'.toList))

/-- A part of a string between tripled double quotes. A backslash before a line end takes the blanks
and line ends that follow with it. -/
def basicPart : Reader (List Char) :=
  (List.singleton <$> basicChar)
  <|> (do
    literal "\\"
    blanks
    newline
    discard (many (discard (char isBlank) <|> newline))
    pure [])

/-- A string of any kind. -/
def string : Reader String :=
  blockString '"' basicPart <|> blockString '\'' (List.singleton <$> literalChar) <|> lineString

/-! ### Keys -/

/-- A character of a key without quotes. -/
def isKeyChar (c : Char) : Bool := c.isAlphanum || c == '_' || c == '-'

/-- One key, bare or in quotes. -/
def simpleKey : Reader String := (String.ofList <$> run1 isKeyChar) <|> lineString

/-- How deep keys and values may nest. -/
def nestingLimit : Nat := 79

/-- One or more keys joined by dots, with blanks around each. -/
def key : Reader (List String) := do
  let path ← separated (literal ".") (blanks *> simpleKey <* blanks)
  guard (path.length ≤ nestingLimit)
  pure path

/-! ### Numbers -/

/-- Digits, with single underscores between them. -/
def digitsBetween (isDigit : Char → Bool) : Reader (List Char) := do
  let c ← char isDigit
  let cs ← many (char isDigit <|> (literal "_" *> char isDigit))
  pure (c :: cs)

/-- The sign of a number, if it has one. -/
def sign : Reader (List Char) := List.singleton <$> char (fun c => c == '+' || c == '-') <|> pure []

/-- A decimal whole number without a leading zero. -/
def wholeDigits : Reader (List Char) :=
  (except (literal "0") *> digitsBetween Char.isDigit) <|> (literal "0" *> pure ['0'])

/-- A number that fits in 64 bits with a sign. -/
def integerOf (n : Int) : Reader Value := do
  guard (Int64.minValue.toInt ≤ n && n ≤ Int64.maxValue.toInt)
  pure (.integer n)

/-- A whole number in the base that the letter behind a zero stands for. -/
def basedInteger (mark : String) (base : Nat) (isDigit : Char → Bool) : Reader Value := do
  literal mark
  integerOf (valueInBase base (← digitsBetween isDigit))

/-- An integer in any base. Only a decimal one has a sign. -/
def integer : Reader Value :=
  basedInteger "0x" 16 isHexDigit
  <|> basedInteger "0o" 8 (fun c => '0' ≤ c && c ≤ '7')
  <|> basedInteger "0b" 2 (fun c => c == '0' || c == '1')
  <|> (do
    let negative := (← sign) == ['-']
    let n : Int := valueInBase 10 (← wholeDigits)
    integerOf (if negative then -n else n))

/-- The exponent of a float, as it stands. -/
def exponentPart : Reader (List Char) := do
  discard (char fun c => c == 'e' || c == 'E')
  let sign ← sign
  let digits ← digitsBetween Char.isDigit
  pure ('e' :: sign ++ digits)

/-- The digits of a float from the point on, as they stand. -/
def fractionPart : Reader (List Char) := do
  literal "."
  let digits ← digitsBetween Char.isDigit
  let exponent ← optional exponentPart
  pure ('.' :: digits ++ exponent.getD [])

/-- A float. One too large is refused, unless it is negative. -/
def float : Reader Value :=
  (do
    let sign ← sign
    let whole ← wholeDigits
    let rest ← exponentPart <|> fractionPart
    match Number.ofText? (String.ofList (sign ++ whole ++ rest)) with
    | some value =>
      guard (Number.parts value ≠ .infinite false)
      pure (.float value)
    | none => failure)
  <|> (do
    let sign ← sign
    let name ← (literal "inf" *> pure "inf") <|> (literal "nan" *> pure "nan")
    match Number.ofText? (String.ofList sign ++ name) with
    | some value => pure (.float value)
    | none => failure)

/-- A truth value. -/
def boolean : Reader Value :=
  (literal "true" *> pure (.boolean true)) <|> (literal "false" *> pure (.boolean false))

/-! ### Dates and times -/

/-- A number of exactly `n` digits between two bounds. -/
def field (n low high : Nat) : Reader Nat := do
  let value := valueInBase 10 (← exactly n Char.isDigit)
  guard (low ≤ value && value ≤ high)
  pure value

/-- The number of days of a month. -/
def daysIn (year month : Nat) : Nat :=
  if month = 2 then
    if year % 4 = 0 && (year % 100 ≠ 0 || year % 400 = 0) then 29 else 28
  else if month = 4 || month = 6 || month = 9 || month = 11 then 30
  else 31

/-- A date that the calendar has. -/
def date : Reader Unit := do
  let year ← field 4 0 9999
  literal "-"
  let month ← field 2 1 12
  literal "-"
  discard (field 2 1 (daysIn year month))

/-- A time of the day; a minute may have a leap second. -/
def time : Reader Unit := do
  discard (field 2 0 23)
  literal ":"
  discard (field 2 0 59)
  literal ":"
  discard (field 2 0 60)
  discard (optional (literal "." *> run1 Char.isDigit))

/-- The distance from universal time. -/
def offset : Reader Unit :=
  discard (char fun c => c == 'Z' || c == 'z')
  <|> (do
    discard (char fun c => c == '+' || c == '-')
    discard (field 2 0 23)
    literal ":"
    discard (field 2 0 59))

/-- A date, a time, or both with or without an offset. -/
def datetime : Reader Value := fun cs =>
  let form : Reader Unit :=
    (do
      date
      discard (optional (do
        discard (char fun c => c == 'T' || c == 't' || c == ' ')
        time
        discard (optional offset))))
    <|> time
  (form cs).map fun (_, rest) =>
    (.datetime (String.ofList (cs.take (cs.length - rest.length))), rest)

/-- A value that holds no other values. -/
def scalar : Reader Value :=
  (Value.string <$> string) <|> boolean <|> datetime <|> float <|> integer

end Calculator.Toml
