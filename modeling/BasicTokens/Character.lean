import BasicTokens.Text

/-!
# Character — the classes that decide where a lexeme begins and ends

Every class is a set of ASCII characters; any other character belongs to none of them and so can
only stand inside a comment or a string, or by itself.
-/

namespace BasicTokens

namespace Character

/-- The six characters that separate lexemes: space, tab, line feed, carriage return, vertical tab
and form feed. -/
def isBlank (c : Char) : Bool :=
  c == ' ' || c == '\t' || c == '\n' || c == '\r' || c == '\x0b' || c == '\x0c'

/-- The characters that end a line; no comment and no string reaches past one. -/
def isLineEnd (c : Char) : Bool := c == '\n' || c == '\r'

/-- The characters a name can start with: letters and the underscore. -/
def isNameStart (c : Char) : Bool := c.isAlpha || c == '_'

/-- The characters a name can go on with: letters, digits and the underscore. -/
def isNamePart (c : Char) : Bool := c.isAlphanum || c == '_'

/-- A line end separates lexemes like any other blank. -/
theorem isBlank_of_isLineEnd {c : Char} (h : isLineEnd c = true) : isBlank c = true := by
  simp only [isLineEnd, Bool.or_eq_true, beq_iff_eq] at h
  rcases h with rfl | rfl <;> decide

theorem isNamePart_of_isNameStart {c : Char} (h : isNameStart c = true) : isNamePart c = true := by
  simp only [isNameStart, isNamePart, Char.isAlphanum, Bool.or_eq_true] at h ⊢
  rcases h with h | h
  · exact Or.inl (Or.inl h)
  · exact Or.inr h

end Character

/-- A text up to its first line end. -/
def Text.line (t : Text) : Text := t.takeWhile fun c => !Character.isLineEnd c

end BasicTokens
