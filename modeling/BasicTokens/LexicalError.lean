import BasicTokens.Diagnostic.Builder
import BasicTokens.Text.Quoted

/-!
# LexicalError — why a text is no good token

An error names its cause, the text and its offset; severity, code, message and advice follow from
these, and `report` puts them together with a place.
-/

namespace BasicTokens

/-- What is wrong with a lexeme. -/
inductive LexicalError where
  /-- A single character that begins nothing. -/
  | unrecognizedCharacter (text : Text) (offset : Nat)
  /-- A quote without a closing one on its line; `recovered` if it was made a string even so. -/
  | unterminatedString (text : Text) (offset : Nat) (recovered : Bool)
  /-- A text shaped like a number that is none. -/
  | malformedNumber (text : Text) (offset : Nat)
  /-- Several characters, or none, that are no token. -/
  | unknownToken (text : Text) (offset : Nat)
deriving DecidableEq

namespace LexicalError

/-- The text at fault. -/
def text : LexicalError → Text
  | unrecognizedCharacter text _ => text
  | unterminatedString text _ _ => text
  | malformedNumber text _ => text
  | unknownToken text _ => text

/-- The number of characters before the text at fault. -/
def offset : LexicalError → Nat
  | unrecognizedCharacter _ offset => offset
  | unterminatedString _ offset _ => offset
  | malformedNumber _ offset => offset
  | unknownToken _ offset => offset

/-- Whether the text was accepted as a token in spite of the error. -/
def recovered : LexicalError → Bool
  | unterminatedString _ _ recovered => recovered
  | _ => false

/-- What the text was taken for. -/
def subject : LexicalError → Text
  | unrecognizedCharacter .. => "unrecognized character ".toList
  | unterminatedString .. => "unterminated string literal ".toList
  | malformedNumber .. => "malformed number ".toList
  | unknownToken .. => "unknown token ".toList

/-- The text form: the subject, the quoted text and the offset. -/
def message [Text.CharacterData] (e : LexicalError) : Text :=
  e.subject ++ e.text.quoted ++ " at position ".toList ++ Text.decimal e.offset

/-- A recovered error is a warning. -/
def level (e : LexicalError) : Diagnostic.Level := if e.recovered then .warning else .error

/-- The code of the cause. -/
def code : LexicalError → Diagnostic.Code
  | unrecognizedCharacter .. => .unexpectedCharacter
  | unterminatedString .. => .unterminatedString
  | malformedNumber .. => .invalidNumber
  | unknownToken .. => .unknownToken

/-- What happened beyond the message. -/
def notes (e : LexicalError) : List Text :=
  if e.recovered then ["the string was closed at the end of the line".toList] else []

/-- What to do about it. -/
def helps : LexicalError → List Text
  | unrecognizedCharacter .. => ["remove it or replace it with a valid token".toList]
  | unterminatedString _ _ true => ["add a closing `\"`".toList]
  | unterminatedString _ _ false => ["add a closing `\"` before the end of the line".toList]
  | malformedNumber .. =>
    ["numbers are digits with at most one decimal point, and no trailing point".toList]
  | unknownToken .. => ["remove it or replace it with a valid token".toList]

/-- The diagnostic for an error at a place. -/
def report [Text.CharacterData] (e : LexicalError) (span : Span) : Diagnostic :=
  ((Diagnostic.Builder.start e.level e.message).addAll
    (.code e.code :: .span span :: (e.notes.map .note ++ e.helps.map .help))).build

/-- What is reported, part by part. -/
theorem report_eq [Text.CharacterData] (e : LexicalError) (span : Span) :
    e.report span = { level := e.level, message := e.message, span, code := some e.code
                      notes := e.notes, helps := e.helps } := by
  rw [report, Diagnostic.Builder.build_addAll_start, Diagnostic.ofParts_cons_code_span]

section

variable [Text.CharacterData] (e : LexicalError) (span : Span)

@[simp] theorem level_report : (e.report span).level = e.level := by rw [report_eq]

@[simp] theorem message_report : (e.report span).message = e.message := by rw [report_eq]

@[simp] theorem span_report : (e.report span).span = span := by rw [report_eq]

@[simp] theorem code_report : (e.report span).code = some e.code := by rw [report_eq]

@[simp] theorem notes_report : (e.report span).notes = e.notes := by rw [report_eq]

@[simp] theorem helps_report : (e.report span).helps = e.helps := by rw [report_eq]

end

end LexicalError

end BasicTokens
