import BasicTokens.Diagnostic.Code
import BasicTokens.Diagnostic.Level
import BasicTokens.Span

/-!
# Diagnostic — one reported problem and its text form

    error[E1001]: unrecognized character "@" at position 6
      --> 1:7
      = help: remove it or replace it with a valid token
-/

namespace BasicTokens

/-- A problem, as it is reported. -/
structure Diagnostic where
  level : Diagnostic.Level
  message : Text
  span : Span := .nowhere
  code : Option Diagnostic.Code := none
  notes : List Text := []
  helps : List Text := []
deriving DecidableEq

namespace Diagnostic

/-- Whether the level is that of errors. -/
def isError (d : Diagnostic) : Bool := d.level == .error

/-- The first line: level, code if there is one, and message. -/
def headline (d : Diagnostic) : Text :=
  d.level.name ++ (match d.code with
    | some code => '[' :: (code.render ++ [']'])
    | none => []) ++ ": ".toList ++ d.message

/-- The lines below the first: the place, unless it is nowhere, then notes, then helps. -/
def details (d : Diagnostic) : List Text :=
  (if d.span = .nowhere then [] else ["  --> ".toList ++ d.span.render])
    ++ d.notes.map ("  = note: ".toList ++ ·) ++ d.helps.map ("  = help: ".toList ++ ·)

/-- The text form: the headline, and each detail on a line of its own. -/
def render (d : Diagnostic) : Text := d.headline ++ d.details.flatMap ('\n' :: ·)

end Diagnostic

end BasicTokens
