import BasicTokens.Text

/-!
# Token — a classified lexeme

A token is a kind, a text and the character offset of its first character.
-/

namespace BasicTokens

/-- The lexical category of a token. -/
inductive Token.Kind where
  | keyword
  | identifier
  | number
  | string
  | operator
  | delimiter
  | comment
  | unknown
deriving DecidableEq

/-- The name of a kind, in upper case. -/
def Token.Kind.name : Token.Kind → Text
  | .keyword => "KEYWORD".toList
  | .identifier => "IDENTIFIER".toList
  | .number => "NUMBER".toList
  | .string => "STRING".toList
  | .operator => "OPERATOR".toList
  | .delimiter => "DELIMITER".toList
  | .comment => "COMMENT".toList
  | .unknown => "UNKNOWN".toList

/-- A lexeme with its kind. -/
structure Token where
  kind : Token.Kind
  /-- Keywords are in upper case, all else is as it was written. -/
  text : Text
  /-- The number of characters before it. -/
  offset : Nat
deriving DecidableEq

namespace Token

/-- The number of characters of the text. -/
def length (t : Token) : Nat := t.text.length

/-- Whether the text has no characters. -/
def isEmpty (t : Token) : Bool := t.text.isEmpty

/-- The offset just past the last character. -/
def endOffset (t : Token) : Nat := t.offset + t.length

/-- Whether no rule accepted the text. -/
def isUnknown (t : Token) : Bool := t.kind == .unknown

/-- `[KIND: text] at position OFFSET`. -/
def render (t : Token) : Text :=
  '[' :: (t.kind.name ++ [':', ' '] ++ t.text ++ "] at position ".toList ++ Text.decimal t.offset)

end Token

end BasicTokens
