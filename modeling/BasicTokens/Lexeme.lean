import BasicTokens.Position

/-!
# Lexeme — a piece cut from a source, with its place
-/

namespace BasicTokens

/-- The rule by which a lexeme was cut. -/
inductive Lexeme.Category where
  /-- The comment marker and the rest of its line. -/
  | comment
  /-- A quoted text, or an open one that was extended to the end of its line. -/
  | string
  /-- Digits with an optional fraction. -/
  | number
  /-- A name or a reserved word. -/
  | word
  /-- A two-character relation. -/
  | relational
  /-- A one-character operator or delimiter. -/
  | single
  /-- A character that no rule takes. -/
  | stray
deriving DecidableEq

/-- A piece of a source. -/
structure Lexeme where
  category : Lexeme.Category
  text : Text
  /-- The number of characters before it. -/
  offset : Nat
  span : Span
deriving DecidableEq

end BasicTokens
