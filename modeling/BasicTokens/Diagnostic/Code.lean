import BasicTokens.Text

/-!
# Diagnostic/Code — what identifies a kind of problem
-/

namespace BasicTokens

namespace Diagnostic

/-- A series, such as `E` for errors, and a number in it. -/
structure Code where
  series : Text
  number : Nat
deriving DecidableEq

namespace Code

/-- The series, then the number in at least four digits. -/
def render (c : Code) : Text := c.series ++ (Text.decimal c.number).padStart 4 '0'

/-- The text form between the parentheses of `DiagnosticCode()`, for a reader who does not know that
it is a code. -/
def describe (c : Code) : Text := "DiagnosticCode(".toList ++ c.render ++ [')']

/-- A character that no rule takes. -/
def unexpectedCharacter : Code := ⟨['E'], 1001⟩

/-- A string without its closing quote. -/
def unterminatedString : Code := ⟨['E'], 1002⟩

/-- A text shaped like a number that is none. -/
def invalidNumber : Code := ⟨['E'], 1003⟩

/-- Several characters that no rule takes. -/
def unknownToken : Code := ⟨['E'], 1004⟩

end Code

end Diagnostic

end BasicTokens
