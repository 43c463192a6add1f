import BasicTokens.Proofs.Reports

/-!
# Proofs/Pulling — requests take the tokens of a source in turn

    accepted   t₀ t₁ │ t₂ t₃ t₄ │ t₅         one segment for each request
    refused    t₀ t₁ │ t₂ t₃ ✗  │ t₄ t₅      a segment ends after the token refused

Between two requests a lexer stands somewhere in the lexemes of its source and its recorder holds
what was reported so far, less what it refused (`Stands`).  A request moves both over its segment,
or just past the first unknown token in it if the recorder is strict (`Stands.granted`,
`Stands.refused`); so whatever the requests, nothing is skipped and nothing is handed out twice
(`pullAll_served`).
-/

namespace BasicTokens

open Lexeme

variable {settings : Settings} {source : Text} {strict : Bool} {lexemes done left : List Lexeme}
  {l : Lexeme} {T : List Token} {D : List Diagnostic}

/-! ## What is kept -/

/-- The diagnostics that a recorder keeps of those delivered to it: a strict one refuses errors. -/
def Recorder.kept (strict : Bool) (delivered : List Diagnostic) : List Diagnostic :=
  delivered.filter fun d => !(strict && d.isError)

theorem Recorder.kept_append (strict : Bool) (s t : List Diagnostic) :
    kept strict (s ++ t) = kept strict s ++ kept strict t :=
  List.filter_append s t

/-- Where nothing is refused, all is kept. -/
theorem Recorder.kept_eq_self {delivered : List Diagnostic}
    (h : strict = true → ∀ d ∈ delivered, d.isError = false) : kept strict delivered = delivered := by
  refine List.filter_eq_self.mpr fun d hd => ?_
  cases hs : strict with
  | false => rfl
  | true => simp [h hs d hd]

theorem Recorder.kept_of_clean
    (h : strict = true → ∀ l ∈ lexemes, ∀ d ∈ l.diagnostic? settings, d.isError = false) :
    kept strict (lexemes.filterMap (·.diagnostic? settings))
      = lexemes.filterMap (·.diagnostic? settings) := by
  refine kept_eq_self fun hstrict d hd => ?_
  obtain ⟨l, hl, hd⟩ := List.mem_filterMap.mp hd
  exact h hstrict l hl d hd

/-- **Either no unknown token stands in the way, or there is a first one.** -/
theorem Lexeme.clean_or_exists_unknown (strict : Bool) (settings : Settings)
    (lexemes : List Lexeme) :
    (strict = true → ∀ l ∈ lexemes, (l.token settings).isUnknown = false) ∨
      strict = true ∧ ∃ front l back, lexemes = front ++ l :: back ∧
        (∀ m ∈ front, (m.token settings).isUnknown = false) ∧
          (l.token settings).isUnknown = true := by
  rcases hfind : lexemes.find? fun l => strict && (l.token settings).isUnknown with _ | l
  · refine Or.inl fun hstrict l hl => ?_
    simpa [hstrict] using List.find?_eq_none.mp hfind l hl
  · obtain ⟨hl, front, back, hsplit, hfront⟩ := List.find?_eq_some_iff_append.mp hfind
    obtain ⟨hstrict, hunknown⟩ : strict = true ∧ (l.token settings).isUnknown = true := by
      simpa using hl
    refine Or.inr ⟨hstrict, front, l, back, hsplit, fun m hm => ?_, hunknown⟩
    simpa [hstrict] using hfront m hm

namespace Lexer

variable {lexer : Lexer} {r : Recorder} {reported : Nat} {request : Pull}

/-! ## Requests and segments -/

/-- What a request asks for, of what is left. -/
def Pull.segment {α : Type*} (left : List α) : Pull → List α
  | .next => left.take 1
  | .take n => left.take n
  | .rest => left

/-- **The account after `k` tokens** of a source with tokens `T` and diagnostics `D`: each faulty
token was counted, and its diagnostic is recorded if it is not one that a strict recorder refuses.
-/
structure Accounts (strict : Bool) (T : List Token) (D : List Diagnostic) (k : Nat)
    (lexer : Lexer) (r : Recorder) : Prop where
  count_eq : lexer.diagnosticCount = (T.take k).countP Token.isFaulty
  recorded_eq : r.recorded = Recorder.kept strict (D.take ((T.take k).countP Token.isFaulty))

/-- **How requests are served** once `k` of the tokens `T` were handed out or lost: with the segment
that is asked for or, if the recorder is strict and finds an unknown token in it, with a refusal of
the diagnostic of the first one, after which the next request begins.  That diagnostic is the one of
`D` that has as many before it as there are faulty tokens before its own. -/
inductive Served (strict : Bool) (T : List Token) (D : List Diagnostic) :
    Nat → List Pull → List (Pulled Recorder (List Token)) → Prop
  | done {k : Nat} : Served strict T D k [] []
  | granted {k : Nat} {request : Pull} {requests : List Pull}
      {pulled : Pulled Recorder (List Token)} {outcomes : List (Pulled Recorder (List Token))}
      (clean : strict = true → ∀ t ∈ request.segment (T.drop k), t.isUnknown = false)
      (result_eq : pulled.result = .ok (request.segment (T.drop k)))
      (account : Accounts strict T D (k + (request.segment (T.drop k)).length)
        pulled.lexer pulled.state)
      (more : Served strict T D (k + (request.segment (T.drop k)).length) requests outcomes) :
      Served strict T D k (request :: requests) (pulled :: outcomes)
  | refused {k : Nat} {request : Pull} {requests : List Pull} {front back : List Token} {t : Token}
      {refusal : Refusal} {pulled : Pulled Recorder (List Token)}
      {outcomes : List (Pulled Recorder (List Token))} (refuses : strict = true)
      (segment_eq : request.segment (T.drop k) = front ++ t :: back)
      (first : ∀ u ∈ front, u.isUnknown = false) (unknown : t.isUnknown = true)
      (result_eq : pulled.result = .error refusal)
      (reported : D[(T.take (k + front.length)).countP Token.isFaulty]? = some refusal.diagnostic)
      (message_eq : refusal.message
        = "unexpected error diagnostic: ".toList ++ refusal.diagnostic.render)
      (account : Accounts strict T D (k + front.length + 1) pulled.lexer pulled.state)
      (more : Served strict T D (k + front.length + 1) requests outcomes) :
      Served strict T D k (request :: requests) (pulled :: outcomes)

/-! ## One request -/

theorem Pull.segment_map {α β : Type*} (f : α → β) (left : List α) (request : Pull) :
    request.segment (left.map f) = (request.segment left).map f := by
  cases request with
  | next => exact List.map_take.symm
  | take n => exact List.map_take.symm
  | rest => rfl

theorem Pull.mem_of_mem_segment {α : Type*} {left : List α} {request : Pull} {a : α}
    (h : a ∈ request.segment left) : a ∈ left := by
  cases request with
  | next => exact List.mem_of_mem_take h
  | take n => exact List.mem_of_mem_take h
  | rest => exact h

/-- **Every request is one for so many tokens.** -/
theorem Holds.pull_eq_take (h : lexer.Holds settings lexemes reported) (request : Pull) :
    ∃ n, request.segment lexemes = lexemes.take n ∧ ∀ {σ : Type} (sink : Sink σ) (state : σ),
      lexer.pull sink request state = lexer.take sink n state := by
  cases request with
  | next =>
    refine ⟨1, rfl, fun sink state => ?_⟩
    rcases hnext : lexer.next sink state with ⟨refusal | _ | t, lexer', state'⟩ <;>
      simp only [pull, take, hnext] <;> rfl
  | take n => exact ⟨n, rfl, fun _ _ => rfl⟩
  | rest =>
    have hle := lexer.scanner.scan_lexemes.length_le
    rw [h.lexemes_eq] at hle
    exact ⟨_, (List.take_of_length_le hle).symm, fun _ _ => rfl⟩

/-- **Where a lexer and its recorder stand** after the lexemes `done`, before the lexemes `left`. -/
structure Stands (settings : Settings) (strict : Bool) (done left : List Lexeme) (lexer : Lexer)
    (r : Recorder) : Prop where
  holds : lexer.Holds settings left (done.filterMap (·.diagnostic? settings)).length
  strict_eq : r.strict = strict
  recorded_eq : r.recorded = Recorder.kept strict (done.filterMap (·.diagnostic? settings))

namespace Stands

/-- **A segment without a refusal** is handed out. -/
theorem pull_of_clean (h : Stands settings strict done left lexer r) (request : Pull)
    (hclean : strict = true → ∀ l ∈ request.segment left, ∀ d ∈ l.diagnostic? settings,
      d.isError = false) :
    ∃ left', left = request.segment left ++ left' ∧
      (lexer.pull .recorder request r).result
        = .ok ((request.segment left).map (·.token settings)) ∧
      Stands settings strict (done ++ request.segment left) left'
        (lexer.pull .recorder request r).lexer (lexer.pull .recorder request r).state := by
  obtain ⟨n, hsegment, hpull⟩ := h.holds.pull_eq_take request
  obtain ⟨r', htell, hstrict, hrecorded⟩ :=
    Recorder.tellAll_of_accepts fun hr => hclean (h.strict_eq ▸ hr)
  have hkept := Recorder.kept_of_clean hclean
  rw [hsegment] at htell hrecorded hkept ⊢
  obtain ⟨lexer', hholds, htake⟩ := h.holds.take_of_ok n htell
  rw [hpull, htake]
  refine ⟨left.drop n, (List.take_append_drop n left).symm, rfl, ?_, hstrict.trans h.strict_eq, ?_⟩
  · rwa [List.filterMap_append, List.length_append]
  · rw [hrecorded, h.recorded_eq, List.filterMap_append, Recorder.kept_append, hkept]

/-- **A segment with a refusal** is lost up to the lexeme refused. -/
theorem pull_of_error (h : Stands settings strict done left lexer r) (hstrict : strict = true)
    {front back : List Lexeme} {d : Diagnostic}
    (hsegment : request.segment left = front ++ l :: back)
    (hfront : ∀ m ∈ front, ∀ d ∈ m.diagnostic? settings, d.isError = false)
    (hd : l.diagnostic? settings = some d) (herror : d.isError = true) :
    ∃ left', left = front ++ l :: left' ∧
      (lexer.pull .recorder request r).result = .error ⟨d⟩ ∧
      Stands settings strict (done ++ (front ++ [l])) left'
        (lexer.pull .recorder request r).lexer (lexer.pull .recorder request r).state := by
  obtain ⟨n, htake, hpull⟩ := h.holds.pull_eq_take request
  obtain ⟨r', htell, hr', hrecorded⟩ := Recorder.tellAll_of_accepts fun _ => hfront
  rw [hsegment] at htake
  have hleft : left = front ++ l :: (back ++ left.drop n) := by
    rw [← List.cons_append, ← List.append_assoc, htake, List.take_append_drop]
  obtain ⟨lexer', hlexer', hrefused⟩ := h.holds.take_of_refusal htake.symm htell
    (Recorder.tell_of_refuses (hr'.trans (h.strict_eq.trans hstrict)) hd herror)
  have hrefusal : Recorder.kept strict ([l].filterMap (·.diagnostic? settings)) = [] := by
    simp [Recorder.kept, hd, hstrict, herror]
  rw [hpull, hrefused]
  refine ⟨_, hleft, rfl, ?_, hr'.trans h.strict_eq, ?_⟩
  · rwa [List.filterMap_append, List.length_append]
  · rw [hrecorded, h.recorded_eq, List.filterMap_append, List.filterMap_append, Recorder.kept_append,
      Recorder.kept_append, Recorder.kept_of_clean fun _ => hfront, hrefusal, List.append_nil]

end Stands

/-! ## One request, seen from the tokens and diagnostics of the source -/

theorem drop_tokens (hsource : Lexeme.ofSource settings source = done ++ left) :
    (tokenizeCollecting settings source).1.drop done.length = left.map (·.token settings) := by
  rw [tokenizeCollecting_eq, hsource, List.map_append]
  exact List.drop_left' (List.length_map _)

theorem countP_take_tokens (hsource : Lexeme.ofSource settings source = done ++ left) :
    ((tokenizeCollecting settings source).1.take done.length).countP Token.isFaulty
      = (done.filterMap (·.diagnostic? settings)).length := by
  simp only [tokenizeCollecting_eq, hsource, List.map_append]
  rw [List.take_left' (List.length_map _)]
  exact countP_isFaulty fun l hl => hsource ▸ List.mem_append_left left hl

/-- The diagnostic of a token comes after those of the tokens before it. -/
theorem getElem?_diagnostics (hsource : Lexeme.ofSource settings source = done ++ l :: left)
    {d : Diagnostic} (hd : l.diagnostic? settings = some d) :
    (tokenizeCollecting settings source).2[
      ((tokenizeCollecting settings source).1.take done.length).countP Token.isFaulty]? = some d := by
  rw [countP_take_tokens hsource]
  simp only [tokenizeCollecting_eq, hsource, List.filterMap_append, filterMap_diagnostic?_cons, hd]
  simp

namespace Stands

/-- **What stands after some lexemes accounts for their tokens.** -/
theorem accounts (h : Stands settings strict done left lexer r)
    (hsource : Lexeme.ofSource settings source = done ++ left) :
    Accounts strict (tokenizeCollecting settings source).1 (tokenizeCollecting settings source).2
      done.length lexer r := by
  refine ⟨h.holds.count_eq.trans (countP_take_tokens hsource).symm, ?_⟩
  rw [countP_take_tokens hsource, h.recorded_eq]
  simp only [tokenizeCollecting_eq, hsource, List.filterMap_append, List.take_left]

end Stands

/-- **What one request leads to**: the lexer stands further on in its source and, if the requests
that follow are served from there, all are served from where it stood. -/
structure Continues (settings : Settings) (source : Text) (strict : Bool) (done : List Lexeme)
    (request : Pull) (pulled : Pulled Recorder (List Token)) (done' left' : List Lexeme) : Prop where
  source_eq : Lexeme.ofSource settings source = done' ++ left'
  stands : Stands settings strict done' left' pulled.lexer pulled.state
  served : ∀ {requests outcomes}, Served strict (tokenizeCollecting settings source).1
      (tokenizeCollecting settings source).2 done'.length requests outcomes →
    Served strict (tokenizeCollecting settings source).1 (tokenizeCollecting settings source).2
      done.length (request :: requests) (pulled :: outcomes)

namespace Stands

/-- **A segment without a refusal is granted.** -/
theorem granted (h : Stands settings strict done left lexer r)
    (hsource : Lexeme.ofSource settings source = done ++ left)
    (hclean : strict = true → ∀ l ∈ request.segment left, (l.token settings).isUnknown = false) :
    ∃ done' left', Continues settings source strict done request (lexer.pull .recorder request r)
      done' left' := by
  have hmem : ∀ l ∈ request.segment left, l ∈ Lexeme.ofSource settings source := fun l hl =>
    hsource ▸ List.mem_append_right done (Pull.mem_of_mem_segment hl)
  obtain ⟨left', hleft, hresult, hnext⟩ := h.pull_of_clean request fun hstrict =>
    isError_eq_false_of_clean hmem (hclean hstrict)
  have hsource' : Lexeme.ofSource settings source = done ++ request.segment left ++ left' := by
    rw [hsource, List.append_assoc, ← hleft]
  have hsegment : request.segment ((tokenizeCollecting settings source).1.drop done.length)
      = (request.segment left).map (·.token settings) := by
    rw [drop_tokens hsource, Pull.segment_map]
  have hlength : done.length + ((request.segment left).map (·.token settings)).length
      = (done ++ request.segment left).length := by
    rw [List.length_map, List.length_append]
  refine ⟨_, left', hsource', hnext, fun hmore => .granted ?_ ?_ ?_ ?_⟩ <;> rw [hsegment]
  · exact fun hstrict => List.forall_mem_map.mpr (hclean hstrict)
  · exact hresult
  · exact hlength ▸ hnext.accounts hsource'
  · exact hlength ▸ hmore

/-- **A segment with an unknown token is refused** by a strict recorder, and lost up to there. -/
theorem refused (h : Stands settings strict done left lexer r)
    (hsource : Lexeme.ofSource settings source = done ++ left) (hstrict : strict = true)
    {front back : List Lexeme} (hsplit : request.segment left = front ++ l :: back)
    (hfront : ∀ m ∈ front, (m.token settings).isUnknown = false)
    (hunknown : (l.token settings).isUnknown = true) :
    ∃ done' left', Continues settings source strict done request (lexer.pull .recorder request r)
      done' left' := by
  have hmem : ∀ m ∈ front ++ l :: back, m ∈ Lexeme.ofSource settings source := fun m hm =>
    hsource ▸ List.mem_append_right done (Pull.mem_of_mem_segment (hsplit ▸ hm))
  rw [List.forall_mem_append, List.forall_mem_cons] at hmem
  obtain ⟨hmemFront, hmemOne, -⟩ := hmem
  obtain ⟨d, hd⟩ := exists_diagnostic?_of_isUnknown hmemOne hunknown
  obtain ⟨left', rfl, hresult, hnext⟩ := h.pull_of_error hstrict hsplit
    (isError_eq_false_of_clean hmemFront hfront) hd
    (by rw [isError_of_diagnostic? hmemOne hd, hunknown])
  have hsource' : Lexeme.ofSource settings source = done ++ (front ++ [l]) ++ left' := by
    simp [hsource]
  have hlength : done.length + (front.map (·.token settings)).length + 1
      = (done ++ (front ++ [l])).length := by
    simp [Nat.add_assoc]
  have hsegment : request.segment ((tokenizeCollecting settings source).1.drop done.length)
      = front.map (·.token settings) ++ l.token settings :: back.map (·.token settings) := by
    rw [drop_tokens hsource, Pull.segment_map, hsplit, List.map_append, List.map_cons]
  have hbefore : Lexeme.ofSource settings source = done ++ front ++ l :: left' := by simp [hsource]
  have hreported := getElem?_diagnostics hbefore hd
  have hfrontLength : (front.map (·.token settings)).length = front.length := List.length_map _
  rw [List.length_append, ← hfrontLength] at hreported
  refine ⟨_, left', hsource', hnext, fun hmore => ?_⟩
  exact .refused hstrict hsegment (List.forall_mem_map.mpr hfront) hunknown hresult hreported rfl
    (hlength ▸ hnext.accounts hsource') (hlength ▸ hmore)

/-! ## Many requests -/

/-- **Requests are served from where the lexer stands.** -/
theorem served (requests : List Pull) : ∀ {done left : List Lexeme} {lexer : Lexer} {r : Recorder},
    Stands settings strict done left lexer r →
      Lexeme.ofSource settings source = done ++ left →
        Served strict (tokenizeCollecting settings source).1 (tokenizeCollecting settings source).2
          done.length requests (lexer.pullAll .recorder requests r) := by
  induction requests with
  | nil => exact fun _ _ => .done
  | cons request requests ih =>
    intro done left lexer r h hsource
    obtain hclean | ⟨hstrict, front, l, back, hsplit, hfront, hunknown⟩ :=
      clean_or_exists_unknown strict settings (request.segment left)
    · obtain ⟨done', left', hnext⟩ := h.granted hsource hclean
      exact hnext.served (ih hnext.stands hnext.source_eq)
    · obtain ⟨done', left', hnext⟩ := h.refused hsource hstrict hsplit hfront hunknown
      exact hnext.served (ih hnext.stands hnext.source_eq)

end Stands

end Lexer

open Lexer

/-- **Requests take the tokens of a source in turn.**  Whatever a recorder refuses, every request
begins where the last one ended. -/
theorem pullAll_served (settings : Settings) (source : Text) (strict : Bool)
    (requests : List Pull) :
    let run := tokenizeCollecting settings source
    Served strict run.1 run.2 0 requests
      ((Lexer.ofSource settings source).pullAll .recorder requests { strict }) := by
  have hstands : Stands settings strict [] (Lexeme.ofSource settings source)
      (Lexer.ofSource settings source) { strict } :=
    ⟨holds_ofSource settings source, rfl, rfl⟩
  exact hstands.served requests rfl

/-- A refusal loses what its request had before it, and no more. -/
example :
    let lexer := Lexer.ofSource {} "A @ B # C".toList
    let outcomes := lexer.pullAll .recorder [.take 3, .next, .rest, .next, .next] { strict := true }
    outcomes.map (·.result.toOption.map (·.map Token.text))
        = [none, some [['B']], none, some [['C']], some []] ∧
      outcomes.map (·.lexer.diagnosticCount) = [1, 1, 2, 2, 2] := by
  decide +kernel

end BasicTokens
