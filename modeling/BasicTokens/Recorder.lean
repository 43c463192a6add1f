import BasicTokens.Diagnostic.Builder
import BasicTokens.Journal

/-!
# Recorder — diagnostics kept for later

A recorder keeps what it receives, oldest first.  A strict one refuses errors: it keeps everything
else and hands an error back.
-/

namespace BasicTokens

/-- An error that was not accepted. -/
structure Refusal where
  diagnostic : Diagnostic
deriving DecidableEq

/-- What a refusal says. -/
def Refusal.message (r : Refusal) : Text :=
  "unexpected error diagnostic: ".toList ++ r.diagnostic.render

/-- The diagnostics received so far. -/
structure Recorder where
  journal : Journal Diagnostic := .empty
  /-- Whether errors are refused. -/
  strict : Bool := false
deriving DecidableEq

namespace Recorder

/-- The diagnostics recorded, oldest first. -/
def recorded (r : Recorder) : List Diagnostic := r.journal.entries

/-- The recorder with one more diagnostic, unless it is strict and this is an error. -/
def receive (r : Recorder) (d : Diagnostic) : Except Refusal Recorder :=
  if r.strict && d.isError then .error ⟨d⟩ else .ok { r with journal := r.journal.write d }

/-- A builder of an error at a place. -/
def buildError (_ : Recorder) (span : Span) (message : Text) : Diagnostic.Builder :=
  (Diagnostic.Builder.error message).add (.span span)

/-- A builder of a warning at a place. -/
def buildWarning (_ : Recorder) (span : Span) (message : Text) : Diagnostic.Builder :=
  (Diagnostic.Builder.warning message).add (.span span)

/-- The number of diagnostics recorded. -/
def size (r : Recorder) : Nat := r.recorded.length

/-- The number of diagnostics of a level. -/
def count (r : Recorder) (level : Diagnostic.Level) : Nat :=
  r.recorded.countP (·.level == level)

/-- The number of errors recorded. -/
def errorCount (r : Recorder) : Nat := r.count .error

/-- The number of warnings recorded. -/
def warningCount (r : Recorder) : Nat := r.count .warning

/-- Whether an error is recorded. -/
def hasErrors (r : Recorder) : Bool := r.recorded.any Diagnostic.isError

/-- The recorder with nothing recorded. -/
def clear (r : Recorder) : Recorder := { r with journal := .empty }

/-- **Exactly a strict recorder refuses, and exactly errors.** -/
theorem receive_eq_error_iff {r : Recorder} {d : Diagnostic} {refusal : Refusal} :
    r.receive d = .error refusal ↔ r.strict = true ∧ d.isError = true ∧ refusal = ⟨d⟩ := by
  unfold receive
  split
  · simp_all [eq_comm (b := refusal)]
  · simp_all

theorem receive_eq_ok_iff {r r' : Recorder} {d : Diagnostic} :
    r.receive d = .ok r' ↔
      ¬(r.strict = true ∧ d.isError = true) ∧ r' = { r with journal := r.journal.write d } := by
  unfold receive
  split
  · simp_all
  · simp_all [eq_comm (b := r')]

/-- What is received goes to the end, and the strictness stays. -/
theorem recorded_of_receive {r r' : Recorder} {d : Diagnostic} (h : r.receive d = .ok r') :
    r'.recorded = r.recorded ++ [d] ∧ r'.strict = r.strict := by
  obtain ⟨-, rfl⟩ := receive_eq_ok_iff.mp h
  exact ⟨Journal.entries_write _ _, rfl⟩

@[simp] theorem recorded_clear (r : Recorder) : r.clear.recorded = [] := rfl

end Recorder

end BasicTokens
