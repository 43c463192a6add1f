import BasicTokens.Proofs.Reports

/-!
# Proofs/Sinks — every sink is told the same

    lexeme    diagnostic, if there is one   token     lexeme …   totals
    closure   applied                       —                    —
    log       error or warning              trace                debug

A sink that refuses nothing is told of every lexeme of a source, and what a reader sees of its state
grows by what it makes of a diagnostic and of a token (`Sink.Writes`).  So runs into different sinks
hand out the same tokens, and what each sink has at the end is read off the lexemes
(`tokenize_sinks`).
-/

namespace BasicTokens

open Lexeme

variable {σ α : Type} {sink : Sink σ} {view : σ → List α} {ofDiagnostic : Diagnostic → List α}
  {ofToken : Token → Span → List α}

/-! ## Sinks that refuse nothing -/

namespace Sink

/-- **A sink that refuses nothing**, and what is seen of a diagnostic and of a token in its state.
-/
structure Writes (sink : Sink σ) (view : σ → List α) (ofDiagnostic : Diagnostic → List α)
    (ofToken : Token → Span → List α) : Prop where
  receive : ∀ d state, ∃ state', sink.receive d state = .ok state' ∧
    view state' = view state ++ ofDiagnostic d
  trace : ∀ t span state, view (sink.trace t span state) = view state ++ ofToken t span

namespace Writes

variable [Text.CharacterData]

theorem tell (h : sink.Writes view ofDiagnostic ofToken) (settings : Settings) (l : Lexeme)
    (state : σ) : ∃ state', sink.tell settings l state = .ok state' ∧
      view state' = view state
        ++ ((l.diagnostic? settings).toList.flatMap ofDiagnostic
          ++ ofToken (l.token settings) l.span) := by
  rcases hd : l.diagnostic? settings with _ | d
  · refine ⟨_, by rw [Sink.tell, hd], ?_⟩
    rw [h.trace]
    rfl
  · obtain ⟨state', hreceive, hview⟩ := h.receive d state
    refine ⟨sink.trace (l.token settings) l.span state', ?_, ?_⟩
    · simp only [Sink.tell, hd, hreceive]
      rfl
    · rw [h.trace, hview, List.append_assoc]
      simp

theorem tellAll (h : sink.Writes view ofDiagnostic ofToken) (settings : Settings)
    (lexemes : List Lexeme) : ∀ state, ∃ state', sink.tellAll settings lexemes state = .ok state' ∧
      view state' = view state ++ lexemes.flatMap fun l =>
        (l.diagnostic? settings).toList.flatMap ofDiagnostic
          ++ ofToken (l.token settings) l.span := by
  induction lexemes with
  | nil => exact fun state => ⟨state, rfl, by simp⟩
  | cons l lexemes ih =>
    intro state
    obtain ⟨state₁, hone, hview₁⟩ := h.tell settings l state
    obtain ⟨state₂, hmore, hview₂⟩ := ih state₁
    refine ⟨state₂, (tellAll_cons_of_ok hone).trans hmore, ?_⟩
    rw [hview₂, hview₁, List.append_assoc, List.flatMap_cons]

/-- **A run into a sink that refuses nothing** hands out every token and writes of every lexeme. -/
theorem tokenize (h : sink.Writes view ofDiagnostic ofToken) (settings : Settings) (source : Text)
    (state : σ) :
    let run := tokenizeCollecting settings source
    ∃ (lexer : Lexer) (state' : σ), BasicTokens.tokenize sink settings source state
        = ⟨.ok run.1, lexer, sink.finish source.length run.1.length run.2.length state'⟩ ∧
      view state' = view state ++ (Lexeme.ofSource settings source).flatMap fun l =>
        (l.diagnostic? settings).toList.flatMap ofDiagnostic
          ++ ofToken (l.token settings) l.span := by
  intro run
  obtain ⟨state', htell, hview⟩ := h.tellAll settings (Lexeme.ofSource settings source) state
  obtain ⟨lexer, hrun⟩ := tokenize_of_ok htell
  refine ⟨lexer, state', ?_, hview⟩
  simp only [run, tokenizeCollecting_eq, List.length_map]
  exact hrun

end Writes

theorem writes_silent : silent.Writes (fun _ => ([] : List Diagnostic)) (fun _ => []) fun _ _ => [] :=
  ⟨fun _ _ => ⟨(), rfl, rfl⟩, fun _ _ _ => rfl⟩

theorem writes_calling (f : Diagnostic → α) :
    (calling f).Writes Journal.entries (fun d => [f d]) fun _ _ => [] :=
  ⟨fun d results => ⟨results.write (f d), rfl, Journal.entries_write _ _⟩,
    fun _ _ _ => (List.append_nil _).symm⟩

theorem writes_logger :
    logger.Writes Journal.entries (fun d => [Log.ofDiagnostic d])
      fun t span => [Log.ofToken t span] :=
  ⟨fun d log => ⟨log.write (Log.ofDiagnostic d), rfl, Journal.entries_write _ _⟩,
    fun _ _ _ => Journal.entries_write _ _⟩

end Sink

/-! ## What is logged -/

namespace Lexeme

variable [Text.CharacterData] {settings : Settings} {source : Text} {l : Lexeme}

/-- **The log entries of a lexeme**: its diagnostic as an error or as a warning, if there is one,
and then its token and its place. -/
def logged (settings : Settings) (l : Lexeme) : List Log.Entry :=
  (l.diagnostic? settings).toList.map
      (fun d => ⟨if d.isError then .error else .warn, d.render⟩)
    ++ [⟨.trace, (l.token settings).render ++ " (".toList ++ l.span.render ++ [')']⟩]

/-- A diagnostic of a source is logged as what it is. -/
theorem ofDiagnostic_of_mem (hl : l ∈ ofSource settings source) {d : Diagnostic}
    (hd : l.diagnostic? settings = some d) :
    Log.ofDiagnostic d = ⟨if d.isError then .error else .warn, d.render⟩ := by
  rw [Log.ofDiagnostic, Diagnostic.isError, (reported_of_diagnostic? hl hd).2.level_eq]
  cases (l.token settings).isUnknown <;> rfl

theorem logged_of_mem (hl : l ∈ ofSource settings source) :
    (l.diagnostic? settings).toList.flatMap (fun d => [Log.ofDiagnostic d])
        ++ [Log.ofToken (l.token settings) l.span] = l.logged settings := by
  rw [logged]
  rcases hd : l.diagnostic? settings with _ | d
  · rfl
  · simp only [Option.toList_some, List.flatMap_singleton, List.map_singleton,
      ofDiagnostic_of_mem hl hd]
    rfl

end Lexeme

end BasicTokens
