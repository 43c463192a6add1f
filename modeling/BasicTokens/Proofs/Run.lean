import BasicTokens.Lexer
import BasicTokens.Proofs.Scan

/-!
# Proofs/Run — a run hands out the tokens of its lexemes and reports what is wrong with them

`Holds` says what a lexer has still to hand out.  One request for a token takes the first lexeme,
whatever the sink answers (`Holds.next_cons`); requests for more follow from it by induction, as far
as the sink accepts what it is told (`Sink.tellAll`).  So a run that is not refused gives one token
for each lexeme of its source (`tokens_of_tokenize`), and a recorder that is not strict keeps one
diagnostic for each of them that has something wrong with it (`tokenizeCollecting_eq`).
-/

namespace BasicTokens

namespace Lexeme

/-- The token that a lexeme is. -/
def token (settings : Settings) (l : Lexeme) : Token := Token.classify settings l.text l.offset

/-- What is reported about a lexeme. -/
def diagnostic? [Text.CharacterData] (settings : Settings) (l : Lexeme) : Option Diagnostic :=
  (l.token settings).problem?.map (·.report l.span)

theorem filterMap_diagnostic?_cons [Text.CharacterData] (settings : Settings) (l : Lexeme)
    (lexemes : List Lexeme) :
    (l :: lexemes).filterMap (·.diagnostic? settings)
      = (l.diagnostic? settings).toList ++ lexemes.filterMap (·.diagnostic? settings) := by
  simp only [List.filterMap_eq_flatMap_toList, List.flatMap_cons]

end Lexeme

/-! ## What is left of a source -/

/-- What a scanner does next, and what it finds altogether. -/
theorem Scanner.lexemes_cases (scanner : Scanner) :
    (scanner.next? = none ∧ scanner.lexemes = []) ∨
      ∃ l scanner', scanner.next? = some (l, scanner') ∧ scanner'.settings = scanner.settings ∧
        scanner.lexemes = l :: scanner'.lexemes := by
  rcases scanner.next?_cases with ⟨-, hnone⟩ | ⟨w, category, s, rest, -, -, -, hsome⟩
  · exact Or.inl ⟨hnone, lexemes_of_none hnone⟩
  · exact Or.inr ⟨_, _, hsome, rfl, lexemes_of_some hsome⟩

/-- **What a lexer has still to hand out**, and how many diagnostics it has reported. -/
structure Lexer.Holds (lexer : Lexer) (settings : Settings) (lexemes : List Lexeme)
    (reported : Nat) : Prop where
  settings_eq : lexer.scanner.settings = settings
  lexemes_eq : lexer.scanner.lexemes = lexemes
  count_eq : lexer.diagnosticCount = reported

theorem Lexer.holds_ofSource (settings : Settings) (source : Text) :
    (ofSource settings source).Holds settings (Lexeme.ofSource settings source) 0 :=
  ⟨rfl, rfl, rfl⟩

/-- A request that finds a lexeme finds it in front. -/
theorem exists_of_take_eq_cons {α : Type*} {n : Nat} {s t : List α} {a : α}
    (h : s.take n = a :: t) : ∃ m s', n = m + 1 ∧ s = a :: s' ∧ t = s'.take m := by
  rcases n with _ | m
  · simp at h
  · rcases s with _ | ⟨b, s⟩
    · simp at h
    · obtain ⟨rfl, rfl⟩ := List.cons.inj h
      exact ⟨m, s, rfl, rfl, rfl⟩

/-- A request for all that is left asks for at least as many tokens as there are lexemes. -/
theorem take_length_ofSource (settings : Settings) (source : Text) :
    (Lexeme.ofSource settings source).take source.length = Lexeme.ofSource settings source :=
  List.take_of_length_le (Lexeme.scan_ofSource settings source).length_le

variable [Text.CharacterData] {σ : Type} {sink : Sink σ} {settings : Settings} {l : Lexeme}
  {lexemes : List Lexeme} {state state' : σ} {refusal : Refusal}

/-! ## What a sink is told -/

namespace Sink

/-- Tells a sink about a lexeme: what is wrong with it, and then its token. -/
def tell (sink : Sink σ) (settings : Settings) (l : Lexeme) (state : σ) : Except Refusal σ :=
  match l.diagnostic? settings with
  | none => .ok (sink.trace (l.token settings) l.span state)
  | some d => (sink.receive d state).map (sink.trace (l.token settings) l.span)

/-- Tells a sink about lexemes in turn, up to the first refusal. -/
def tellAll (sink : Sink σ) (settings : Settings) : List Lexeme → σ → Except Refusal σ
  | [], state => .ok state
  | l :: lexemes, state =>
    match sink.tell settings l state with
    | .ok state => sink.tellAll settings lexemes state
    | .error refusal => .error refusal

theorem tellAll_cons_of_ok (h : sink.tell settings l state = .ok state') :
    sink.tellAll settings (l :: lexemes) state = sink.tellAll settings lexemes state' := by
  rw [tellAll, h]

theorem tellAll_cons_of_error (h : sink.tell settings l state = .error refusal) :
    sink.tellAll settings (l :: lexemes) state = .error refusal := by
  rw [tellAll, h]

/-- A refusal is of one lexeme, and those before it were accepted. -/
theorem exists_of_tellAll_error : ∀ {lexemes : List Lexeme} {state : σ},
    sink.tellAll settings lexemes state = .error refusal →
      ∃ front l back state', lexemes = front ++ l :: back ∧
        sink.tellAll settings front state = .ok state' ∧
          sink.tell settings l state' = .error refusal := by
  intro lexemes
  induction lexemes with
  | nil => intro state h; simp [tellAll] at h
  | cons l lexemes ih =>
    intro state h
    rcases hone : sink.tell settings l state with refusal₁ | state₁
    · rw [tellAll_cons_of_error hone] at h
      exact ⟨[], l, lexemes, state, rfl, rfl, hone.trans h⟩
    · rw [tellAll_cons_of_ok hone] at h
      obtain ⟨front, m, back, state', rfl, hfront, hm⟩ := ih h
      exact ⟨l :: front, m, back, state', rfl, (tellAll_cons_of_ok hone).trans hfront, hm⟩

end Sink

/-! ## One token -/

namespace Lexer

variable {lexer : Lexer} {reported : Nat}

/-- At the end of the source there is no token, and nothing changes. -/
theorem Holds.next_nil (h : lexer.Holds settings [] reported) (sink : Sink σ) (state : σ) :
    lexer.next sink state = ⟨.ok none, lexer, state⟩ := by
  rcases lexer.scanner.lexemes_cases with ⟨hnone, -⟩ | ⟨l, scanner', -, -, hcons⟩
  · rw [next, hnone]
  · rw [h.lexemes_eq] at hcons
    simp at hcons

/-- **One request takes the first lexeme**, whether or not the sink accepts what it is told. -/
theorem Holds.next_cons (h : lexer.Holds settings (l :: lexemes) reported) (sink : Sink σ)
    (state : σ) : ∃ lexer' : Lexer,
      lexer'.Holds settings lexemes (reported + (l.diagnostic? settings).toList.length) ∧
        lexer.next sink state = match sink.tell settings l state with
          | .ok state' => ⟨.ok (some (l.token settings)), lexer', state'⟩
          | .error refusal => ⟨.error refusal, lexer', state⟩ := by
  obtain ⟨scanner, count⟩ := lexer
  obtain ⟨rfl, hlexemes, rfl⟩ := h
  rcases scanner.lexemes_cases with ⟨-, hnil⟩ | ⟨l', scanner', hsome, hsettings, hcons⟩
  · simp [hlexemes] at hnil
  · obtain ⟨rfl, rfl⟩ := List.cons.inj (hlexemes.symm.trans hcons)
    rcases hproblem : (Token.classify scanner.settings l.text l.offset).problem? with _ | error
    · have hnone : l.diagnostic? scanner.settings = none := by
        rw [Lexeme.diagnostic?, Lexeme.token, hproblem, Option.map_none]
      refine ⟨⟨scanner', count⟩, ⟨hsettings, rfl, by simp [hnone]⟩, ?_⟩
      simp only [next, hsome, hproblem, Sink.tell, hnone]
      rfl
    · have hd : l.diagnostic? scanner.settings = some (error.report l.span) := by
        rw [Lexeme.diagnostic?, Lexeme.token, hproblem, Option.map_some]
      refine ⟨⟨scanner', count + 1⟩, ⟨hsettings, rfl, by simp [hd]⟩, ?_⟩
      simp only [next, hsome, hproblem, Sink.tell, hd]
      rcases sink.receive (error.report l.span) state with refusal | state' <;> rfl

/-! ## Many tokens -/

/-- **As long as the sink accepts, requests hand out tokens.** -/
theorem Holds.take_of_ok (n : Nat) : ∀ {lexer : Lexer} {lexemes : List Lexeme} {reported : Nat}
    {state : σ}, lexer.Holds settings lexemes reported →
      sink.tellAll settings (lexemes.take n) state = .ok state' →
        ∃ lexer' : Lexer, lexer'.Holds settings (lexemes.drop n)
          (reported + ((lexemes.take n).filterMap (·.diagnostic? settings)).length) ∧
            lexer.take sink n state
              = ⟨.ok ((lexemes.take n).map (·.token settings)), lexer', state'⟩ := by
  induction n with
  | zero =>
    intro lexer lexemes reported state h htell
    obtain rfl : state = state' := by simpa [Sink.tellAll] using htell
    exact ⟨lexer, h, rfl⟩
  | succ n ih =>
    intro lexer lexemes reported state h htell
    rcases lexemes with _ | ⟨l, lexemes⟩
    · obtain rfl : state = state' := by simpa [Sink.tellAll] using htell
      exact ⟨lexer, h, by rw [take, h.next_nil]; rfl⟩
    · obtain ⟨lexer₁, h₁, hnext⟩ := h.next_cons sink state
      rcases hone : sink.tell settings l state with refusal | state₁
      · rw [List.take_succ_cons, Sink.tellAll_cons_of_error hone] at htell
        simp at htell
      · rw [List.take_succ_cons, Sink.tellAll_cons_of_ok hone] at htell
        obtain ⟨lexer₂, h₂, htake⟩ := ih h₁ htell
        refine ⟨lexer₂, ?_, ?_⟩
        · rwa [List.take_succ_cons, Lexeme.filterMap_diagnostic?_cons, List.length_append,
            ← Nat.add_assoc]
        · simp only [take, hnext, hone, htake]
          rfl

/-- **A refusal ends the request**, and the lexer goes on after the lexeme that was refused. -/
theorem Holds.take_of_refusal {front back : List Lexeme} : ∀ {n : Nat} {lexer : Lexer}
    {lexemes : List Lexeme} {reported : Nat} {state : σ}, lexer.Holds settings lexemes reported →
      lexemes.take n = front ++ l :: back → sink.tellAll settings front state = .ok state' →
        sink.tell settings l state' = .error refusal → ∃ lexer' : Lexer,
          lexer'.Holds settings (back ++ lexemes.drop n)
            (reported + ((front ++ [l]).filterMap (·.diagnostic? settings)).length) ∧
              lexer.take sink n state = ⟨.error refusal, lexer', state'⟩ := by
  induction front with
  | nil =>
    intro n lexer lexemes reported state h hsplit hfront hl
    obtain ⟨n, rest, rfl, rfl, rfl⟩ := exists_of_take_eq_cons hsplit
    obtain rfl : state = state' := by simpa [Sink.tellAll] using hfront
    obtain ⟨lexer', hlexer', hnext⟩ := h.next_cons sink state
    refine ⟨lexer', ?_, by simp only [take, hnext, hl]⟩
    rwa [List.nil_append, Lexeme.filterMap_diagnostic?_cons, List.filterMap_nil, List.append_nil,
      List.drop_succ_cons, List.take_append_drop]
  | cons m front ih =>
    intro n lexer lexemes reported state h hsplit hfront hl
    obtain ⟨n, rest, rfl, rfl, hrest⟩ := exists_of_take_eq_cons hsplit
    obtain ⟨lexer₁, h₁, hnext⟩ := h.next_cons sink state
    rcases hone : sink.tell settings m state with refusal₁ | state₁
    · rw [Sink.tellAll_cons_of_error hone] at hfront
      simp at hfront
    · rw [Sink.tellAll_cons_of_ok hone] at hfront
      obtain ⟨lexer₂, h₂, htake⟩ := ih h₁ hrest.symm hfront hl
      refine ⟨lexer₂, ?_, ?_⟩
      · rwa [List.cons_append, Lexeme.filterMap_diagnostic?_cons, List.length_append,
          ← Nat.add_assoc]
      · simp only [take, hnext, hone, htake]
        rfl

end Lexer

/-! ## Whole sources -/

/-- **A run that is accepted to the end.** -/
theorem tokenize_of_ok {source : Text}
    (h : sink.tellAll settings (Lexeme.ofSource settings source) state = .ok state') :
    ∃ lexer : Lexer, tokenize sink settings source state
      = ⟨.ok ((Lexeme.ofSource settings source).map (·.token settings)), lexer,
          sink.finish source.length (Lexeme.ofSource settings source).length
            ((Lexeme.ofSource settings source).filterMap (·.diagnostic? settings)).length
            state'⟩ := by
  rw [← take_length_ofSource settings source] at h
  obtain ⟨lexer, hlexer, htake⟩ :=
    (Lexer.holds_ofSource settings source).take_of_ok source.length h
  rw [take_length_ofSource] at hlexer htake
  refine ⟨lexer, ?_⟩
  have hrest : (Lexer.ofSource settings source).rest sink state
      = ⟨.ok ((Lexeme.ofSource settings source).map (·.token settings)), lexer, state'⟩ := htake
  simp [tokenize, hrest, hlexer.count_eq]

/-- **A run that is refused** ends at the lexeme refused, and leaves the sink as it was before. -/
theorem tokenize_of_refusal {source : Text} {front back : List Lexeme}
    (hsource : Lexeme.ofSource settings source = front ++ l :: back)
    (hfront : sink.tellAll settings front state = .ok state')
    (hl : sink.tell settings l state' = .error refusal) :
    ∃ lexer : Lexer, tokenize sink settings source state = ⟨.error refusal, lexer, state'⟩ := by
  have hsplit : (Lexeme.ofSource settings source).take source.length = front ++ l :: back := by
    rw [take_length_ofSource, hsource]
  obtain ⟨lexer, -, htake⟩ :=
    (Lexer.holds_ofSource settings source).take_of_refusal hsplit hfront hl
  have hrest : (Lexer.ofSource settings source).rest sink state
      = ⟨.error refusal, lexer, state'⟩ := htake
  exact ⟨lexer, by rw [tokenize, hrest]⟩

/-- **Every run that is not refused gives the tokens of the lexemes.** -/
theorem tokens_of_tokenize {source : Text} {tokens : List Token}
    (h : (tokenize sink settings source state).result = .ok tokens) :
    tokens = (Lexeme.ofSource settings source).map (·.token settings) := by
  rcases htell : sink.tellAll settings (Lexeme.ofSource settings source) state with refusal | state'
  · obtain ⟨front, l, back, state', hsource, hfront, hl⟩ := Sink.exists_of_tellAll_error htell
    obtain ⟨lexer, heq⟩ := tokenize_of_refusal hsource hfront hl
    rw [heq] at h
    simp at h
  · obtain ⟨lexer, heq⟩ := tokenize_of_ok htell
    rw [heq] at h
    exact (Except.ok.inj h).symm

/-! ## Recorded runs -/

namespace Recorder

variable {r : Recorder}

/-- **A recorder keeps what is wrong with a lexeme**, unless it is strict and this is an error. -/
theorem tell_of_accepts (h : r.strict = true → ∀ d ∈ l.diagnostic? settings, d.isError = false) :
    ∃ r' : Recorder, Sink.recorder.tell settings l r = .ok r' ∧ r'.strict = r.strict ∧
      r'.recorded = r.recorded ++ (l.diagnostic? settings).toList := by
  rcases hd : l.diagnostic? settings with _ | d
  · exact ⟨r, by rw [Sink.tell, hd]; rfl, rfl, by simp⟩
  · refine ⟨{ r with journal := r.journal.write d }, ?_, rfl, Journal.entries_write _ _⟩
    have hreceive : r.receive d = .ok { r with journal := r.journal.write d } := by
      refine receive_eq_ok_iff.mpr ⟨?_, rfl⟩
      rintro ⟨hstrict, herror⟩
      exact absurd herror (by simp [h hstrict d hd])
    rw [Sink.tell, hd]
    simp only [Sink.recorder, hreceive]
    rfl

theorem tell_of_refuses {d : Diagnostic} (hr : r.strict = true)
    (hd : l.diagnostic? settings = some d) (herror : d.isError = true) :
    Sink.recorder.tell settings l r = .error ⟨d⟩ := by
  have hreceive : r.receive d = .error ⟨d⟩ := receive_eq_error_iff.mpr ⟨hr, herror, rfl⟩
  rw [Sink.tell, hd]
  simp only [Sink.recorder, hreceive]
  rfl

theorem tellAll_of_accepts : ∀ {lexemes : List Lexeme} {r : Recorder},
    (r.strict = true → ∀ l ∈ lexemes, ∀ d ∈ l.diagnostic? settings, d.isError = false) →
      ∃ r' : Recorder, Sink.recorder.tellAll settings lexemes r = .ok r' ∧ r'.strict = r.strict ∧
        r'.recorded = r.recorded ++ lexemes.filterMap (·.diagnostic? settings) := by
  intro lexemes
  induction lexemes with
  | nil => exact fun _ => ⟨_, rfl, rfl, by simp⟩
  | cons l lexemes ih =>
    intro r h
    obtain ⟨r₁, htell, hr₁, hone⟩ := tell_of_accepts fun hr => h hr l List.mem_cons_self
    obtain ⟨r₂, hall, hr₂, hmore⟩ := ih fun hr m hm => h (hr₁ ▸ hr) m (List.mem_cons_of_mem l hm)
    refine ⟨r₂, (Sink.tellAll_cons_of_ok htell).trans hall, hr₂.trans hr₁, ?_⟩
    rw [hmore, hone, List.append_assoc, Lexeme.filterMap_diagnostic?_cons]

end Recorder

/-- **Tokens and diagnostics of a source, lexeme by lexeme.** -/
theorem tokenizeCollecting_eq (settings : Settings) (source : Text) :
    tokenizeCollecting settings source
      = ((Lexeme.ofSource settings source).map (·.token settings),
          (Lexeme.ofSource settings source).filterMap (·.diagnostic? settings)) := by
  have haccepts : ({} : Recorder).strict = true → ∀ l ∈ Lexeme.ofSource settings source,
      ∀ d ∈ l.diagnostic? settings, d.isError = false := by simp
  obtain ⟨r, htell, -, hrecorded⟩ := Recorder.tellAll_of_accepts haccepts
  obtain ⟨lexer, heq⟩ := tokenize_of_ok htell
  simp only [tokenizeCollecting, heq]
  exact Prod.ext rfl hrecorded

end BasicTokens
