import BasicTokens.Text
import BasicTokens.Text.Unprintable

/-!
# Text/Quoted — a text in double quotes, shown so that nothing in it is hidden

A quote and a backslash are preceded by a backslash; NUL, tab, carriage return and line feed have a
letter each; any other unprintable character is written by its code point in hexadecimal.  So a
quoted text stays on one line, whatever the text.
-/

namespace BasicTokens

namespace Text

/-- The letter that stands for a character after a backslash. -/
def escapeLetter? : Char → Option Char
  | '\x00' => some '0'
  | '\t' => some 't'
  | '\r' => some 'r'
  | '\n' => some 'n'
  | '"' => some '"'
  | '\\' => some '\\'
  | _ => none

/-- A natural number in lower-case hexadecimal digits. -/
def hexadecimal (n : Nat) : Text := Nat.toDigits 16 n

/-- One character as a quoted text shows it. -/
def escape [CharacterData] (c : Char) : Text :=
  match escapeLetter? c with
  | some letter => ['\\', letter]
  | none =>
    if isUnprintable c then ['\\', 'u', '\x7b'] ++ hexadecimal c.toNat ++ ['\x7d'] else [c]

/-- A text in double quotes. -/
def quoted [CharacterData] (t : Text) : Text := '"' :: (t.flatMap escape ++ ['"'])

end Text

end BasicTokens
