import Calculator.Text.Invisible
import Calculator.Text.Extending

/-!
Quoted text.

A text is quoted between double quotes so that it shows on one line and can be told apart from any
other text. The quote, the backslash and the four controls with a letter of their own are written
as a backslash and a letter; a character that shows nothing, or that would attach to the one before
it, is written as `\u` and its code point in braces; every other character stands for itself.
-/

namespace Calculator.Text

/-- The letter that stands for a character behind a backslash, if it has one. -/
def escapeLetter? : Char → Option Char
  | '"' => some '"'
  | '\\' => some '\\'
  | '\n' => some 'n'
  | '\r' => some 'r'
  | '\t' => some 't'
  | '\x00' => some '0'
  | _ => none

/-- Whether a character is written by its code point. -/
def isHidden (c : Char) : Bool := isInvisible c || isExtending c

/-- A character as it stands between the quotes. Code points are in lower-case hexadecimal. -/
def quoteChar (c : Char) : List Char :=
  match escapeLetter? c with
  | some letter => ['\\', letter]
  | none =>
    if isHidden c then ['\\', 'u', '\x7b'] ++ Nat.toDigits 16 c.toNat ++ ['\x7d'] else [c]

/-- A text between double quotes. -/
def quote (text : String) : String :=
  String.ofList ('"' :: text.toList.flatMap quoteChar ++ ['"'])

end Calculator.Text
