import BasicTokens.Grammar
import BasicTokens.LexicalError
import BasicTokens.Settings
import BasicTokens.Token

/-!
# Token/Classify — the kind of a text, and what is wrong with it

The kind is decided from the text alone, without regard to how it was cut from a source.  The rules
are tried in order: comment, string, number, keyword, identifier, operator, delimiter; a text that
none accepts is unknown.
-/

namespace BasicTokens

namespace Token

open Character Grammar

/-- Whether a text counts as a string: a literal or, if open strings are extended, an open one. -/
def isString (settings : Settings) (t : Text) : Bool :=
  isStringLiteral t ||
    (settings.unterminatedStrings == .extendToLineEnd && isOpenString t)

/-- The token that a text without surrounding blanks is. -/
def ofTrimmed (settings : Settings) (t : Text) (offset : Nat) : Token :=
  if startsRemark settings.caseInsensitiveRemarks t then ⟨.comment, t, offset⟩
  else if isString settings t then ⟨.string, t, offset⟩
  else if isNumber t then ⟨.number, t, offset⟩
  else match keyword? t with
    | some keyword => ⟨.keyword, keyword, offset⟩
    | none =>
      if isIdentifier t then ⟨.identifier, t, offset⟩
      else if isOperator t then ⟨.operator, t, offset⟩
      else if isDelimiter t then ⟨.delimiter, t, offset⟩
      else ⟨.unknown, t, offset⟩

/-- The token that a text beginning at `offset` is.  Blanks around it are dropped, and the offset
moves past the bytes of those in front: each is one character. -/
def classify (settings : Settings) (t : Text) (offset : Nat) : Token :=
  let kept : Text := t.dropWhile isBlank
  ofTrimmed settings (kept.trimEnd isBlank) (offset + (t.byteLength - kept.byteLength))

/-- Why a text that no rule accepts is not a token. -/
def unknownCause (t : Text) (offset : Nat) : LexicalError :=
  match t with
  | [] => .unknownToken t offset
  | [c] =>
    if c = '"' then .unterminatedString t offset false
    else if c.isDigit then .malformedNumber t offset
    else .unrecognizedCharacter t offset
  | c :: d :: _ =>
    if c = '"' then .unterminatedString t offset false
    else if c.isDigit || (c == '.' && d.isDigit) then .malformedNumber t offset
    else .unknownToken t offset

/-- What is wrong with a token: an unknown one always has a cause, and a string that lacks its
closing quote was recovered from. -/
def problem? (t : Token) : Option LexicalError :=
  match t.kind with
  | .unknown => some (unknownCause t.text t.offset)
  | .string =>
    if isStringLiteral t.text then none else some (.unterminatedString t.text t.offset true)
  | _ => none

end Token

end BasicTokens
