import BasicTokens.Toml.Reader

/-!
# Toml/Quoted — strings in their four forms

A basic string is in double quotes and knows escapes; a literal one is in single quotes and knows
none.  Either may go over several lines in three quotes, and may then hold up to two quotes in a
row; the line end right after the opening quotes is not part of it.
-/

namespace BasicTokens

namespace Toml

namespace Quoted

open Reader

/-- The characters that stand for themselves in a string where the `excluded` ones do not. -/
def isPlainBut (excluded : List Char) (c : Char) : Bool := isPlain c && !excluded.contains c

/-- The value of a hexadecimal digit. -/
def hexDigit? (c : Char) : Option Nat :=
  if c.isDigit then some (c.toNat - '0'.toNat)
  else if 'a' ≤ c && c ≤ 'f' then some (c.toNat - 'a'.toNat + 10)
  else if 'A' ≤ c && c ≤ 'F' then some (c.toNat - 'A'.toNat + 10)
  else none

/-- The character whose code point is written in exactly `n` hexadecimal digits. -/
def codePoint (n : Nat) : Reader Char := do
  let digits := (← ahead).take n
  guard (digits.length == n)
  let values ← digits.mapM fun c => (hexDigit? c : Reader Nat)
  modify (·.forward n)
  let value := values.foldl (fun value digit => 16 * value + digit) 0
  if h : value.isValidChar then return Char.ofNatAux value h else failure

/-- The character that a backslash and what follows it stand for. -/
def escape : Reader Char := do
  char '\\'
  match ← satisfying fun _ => true with
  | 'b' => return '\x08'
  | 't' => return '\t'
  | 'n' => return '\n'
  | 'f' => return '\x0c'
  | 'r' => return '\r'
  | '"' => return '"'
  | '\\' => return '\\'
  | 'u' => codePoint 4
  | 'U' => codePoint 8
  | _ => failure

/-- A line end; it counts as a line feed however it is written. -/
def lineFeed : Reader Text := do
  newline
  return ['\n']

/-- A backslash at the end of a line, with all blanks and line ends after it: nothing. -/
def continuation : Reader Text := do
  char '\\'
  blanks
  newline
  let _ ← many (newline <|> (do let _ ← takeWhile1 fun c => c == ' ' || c == '\t'))
  return []

/-- One or two quotes that do not close a string in three quotes. -/
def innerQuotes (quote : Char) : Reader Text := do
  let run ← takeWhile1 (· == quote)
  guard (run.length ≤ 2)
  return run

/-- The three quotes that close a string, and up to two before them that belong to it. -/
def closingQuotes (quote : Char) : Reader Text := do
  let run ← takeWhile1 (· == quote)
  guard (3 ≤ run.length && run.length ≤ 5)
  return run.drop 3

/-- A string in one double quote at either end, on one line. -/
def basic : Reader Text := do
  char '"'
  let pieces ← many (takeWhile1 (isPlainBut ['"', '\\']) <|> (return [← escape]))
  char '"'
  return pieces.flatten

/-- A string in one single quote at either end, on one line. -/
def literal : Reader Text := do
  char '\''
  let text ← takeWhile (isPlainBut ['\''])
  char '\''
  return text

/-- A string in three double quotes at either end. -/
def basicLines : Reader Text := do
  exactly ['"', '"', '"']
  let _ ← optional newline
  let pieces ← many (takeWhile1 (isPlainBut ['"', '\\']) <|> lineFeed <|> continuation
    <|> (return [← escape]) <|> innerQuotes '"')
  let last ← closingQuotes '"'
  return pieces.flatten ++ last

/-- A string in three single quotes at either end. -/
def literalLines : Reader Text := do
  exactly ['\'', '\'', '\'']
  let _ ← optional newline
  let pieces ← many (takeWhile1 (isPlainBut ['\'']) <|> lineFeed <|> innerQuotes '\'')
  let last ← closingQuotes '\''
  return pieces.flatten ++ last

/-- A string in any form. -/
def string : Reader Text := basicLines <|> basic <|> literalLines <|> literal

end Quoted

end Toml

end BasicTokens
