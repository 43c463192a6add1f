import BasicTokens.Cursor

/-!
# Toml/Reader — reading by moving a cursor

A reader looks at a cursor and either fails or gives a result and the cursor after what it read.
`p <|> q` tries `q` where `p` failed, from the same place, and `optional p` never fails.
-/

namespace BasicTokens

namespace Toml

/-- Reads from a cursor, or fails. -/
abbrev Reader := StateT Cursor Option

namespace Reader

/-- The text still unread. -/
def ahead : Reader Text := return (← get).rest

/-- The next character, if it satisfies `p`. -/
def satisfying (p : Char → Bool) : Reader Char := do
  match (← get).rest with
  | [] => failure
  | c :: _ =>
    guard (p c)
    modify Cursor.advance
    return c

/-- This character. -/
def char (c : Char) : Reader Unit := do
  let _ ← satisfying (· == c)

/-- These characters. -/
def exactly (t : Text) : Reader Unit := do
  guard (t.isPrefixOf (← ahead))
  modify (·.forward t.length)

/-- All characters up to the first that fails `p`. -/
def takeWhile (p : Char → Bool) : Reader Text := do
  let taken : Text := (← ahead).takeWhile p
  modify (·.forward taken.length)
  return taken

/-- The same, but at least one character. -/
def takeWhile1 (p : Char → Bool) : Reader Text := do
  let taken ← takeWhile p
  guard (!taken.isEmpty)
  return taken

/-- What `p` reads, again and again, at most `n` times. -/
def atMost {α : Type} (p : Reader α) : Nat → Reader (List α)
  | 0 => pure []
  | n + 1 => do
    match ← optional p with
    | none => return []
    | some a => return a :: (← atMost p n)

/-- What `p` reads, again and again.  No more than one result for each character is asked for. -/
def many {α : Type} (p : Reader α) : Reader (List α) := do atMost p (← ahead).length

/-- One or more results with a separator between them. -/
def separated {α : Type} (separator : Reader Unit) (p : Reader α) : Reader (List α) := do
  let first ← p
  let others ← many (do separator; p)
  return first :: others

/-- A result and the span of what was read for it. -/
def located {α : Type} (p : Reader α) : Reader (α × Span) := do
  let mark := (← get).position
  let a ← p
  return (a, (← get).spanFrom mark)

/-- Succeeds at the end of the text only. -/
def atEnd : Reader Unit := do guard (← get).atEnd

/-! ## Blanks, line ends and comments -/

/-- Spaces and tabs. -/
def blanks : Reader Unit := do
  let _ ← takeWhile fun c => c == ' ' || c == '\t'

/-- A line feed, alone or after a carriage return. -/
def newline : Reader Unit := exactly ['\n'] <|> exactly ['\r', '\n']

/-- Whether a character may stand in a comment: a tab or anything but ASCII control characters. -/
def isPlain (c : Char) : Bool := c == '\t' || (0x20 ≤ c.toNat && c.toNat != 0x7f)

/-- A number sign and the rest of the line. -/
def comment : Reader Unit := do
  char '#'
  let _ ← takeWhile isPlain

/-- The end of a line or of the text. -/
def lineEnd : Reader Unit := newline <|> atEnd

/-- Blanks, a comment if there is one, and the end of the line. -/
def trailing : Reader Unit := do
  blanks
  let _ ← optional comment
  lineEnd

/-- Blanks, and any number of whole or partial lines that hold nothing but comments. -/
def gap : Reader Unit := do
  blanks
  let _ ← many do
    let _ ← optional comment
    newline
    blanks

end Reader

end Toml

end BasicTokens
