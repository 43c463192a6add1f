import BasicTokens.Log
import BasicTokens.Recorder

/-!
# Sink — where a run reports to

A run tells its sink about each diagnostic, then about the token it belongs to, and at the end of a
whole source about the totals.  Only a diagnostic can be refused.
-/

namespace BasicTokens

/-- What a destination with states `σ` does with what it is told. -/
structure Sink (σ : Type) where
  /-- A diagnostic arrives. -/
  receive : Diagnostic → σ → Except Refusal σ
  /-- A token was cut at a place. -/
  trace : Token → Span → σ → σ := fun _ _ state => state
  /-- A source was read to its end: its characters, its tokens and the diagnostics reported. -/
  finish : Nat → Nat → Nat → σ → σ := fun _ _ _ state => state

namespace Sink

/-- Hands every diagnostic to a recorder. -/
def recorder : Sink Recorder where
  receive d r := r.receive d

/-- Drops everything. -/
def silent : Sink Unit where
  receive _ _ := .ok ()

/-- Applies a function to every diagnostic and keeps the results in order. -/
def calling {α : Type} (f : Diagnostic → α) : Sink (Journal α) where
  receive d results := .ok (results.write (f d))

/-- Logs everything. -/
def logger : Sink (Journal Log.Entry) where
  receive d log := .ok (log.write (Log.ofDiagnostic d))
  trace t span log := log.write (Log.ofToken t span)
  finish characters tokens diagnostics log :=
    log.write (Log.ofTotals characters tokens diagnostics)

end Sink

/-- What a destination does with what a builder has put together. -/
def Diagnostic.Builder.emit {σ : Type} (b : Builder) (sink : Sink σ) (state : σ) :
    Except Refusal σ :=
  sink.receive b.build state

/-- **What a builder emits is delivered**: the diagnostic that its parts make. -/
theorem Diagnostic.Builder.emit_recorder (level : Level) (message : Text) (parts : List Part)
    (r : Recorder) :
    ((start level message).addAll parts).emit .recorder r
      = r.receive (.ofParts level message parts) := by
  rw [emit, build_addAll_start]
  rfl

end BasicTokens
