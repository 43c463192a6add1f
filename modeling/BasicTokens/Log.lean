import BasicTokens.Diagnostic
import BasicTokens.Token

/-!
# Log — what a run writes down line by line
-/

namespace BasicTokens

namespace Log

/-- How important an entry is. -/
inductive Severity where
  | error
  | warn
  | info
  | debug
  | trace
deriving DecidableEq

/-- The word for a severity. -/
def Severity.name : Severity → Text
  | .error => "error".toList
  | .warn => "warn".toList
  | .info => "info".toList
  | .debug => "debug".toList
  | .trace => "trace".toList

/-- One line of a log. -/
structure Entry where
  severity : Severity
  message : Text
deriving DecidableEq

/-- Errors and warnings are logged as such, notes and helps as information. -/
def Severity.ofLevel : Diagnostic.Level → Severity
  | .error => .error
  | .warning => .warn
  | .note => .info
  | .help => .info

/-- The entry for a diagnostic. -/
def ofDiagnostic (d : Diagnostic) : Entry := ⟨.ofLevel d.level, d.render⟩

/-- The entry for a token that was cut at a place. -/
def ofToken (t : Token) (span : Span) : Entry :=
  ⟨.trace, t.render ++ " (".toList ++ span.render ++ [')']⟩

/-- The entry that closes a run over a whole source. -/
def ofTotals (characters tokens diagnostics : Nat) : Entry :=
  ⟨.debug, "tokenized ".toList ++ Text.decimal characters ++ " characters into ".toList
    ++ Text.decimal tokens ++ " tokens with ".toList ++ Text.decimal diagnostics
    ++ " diagnostics".toList⟩

end Log

end BasicTokens
