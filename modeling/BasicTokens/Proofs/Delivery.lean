import BasicTokens.Proofs.Pulling
import BasicTokens.Recorder.Session

/-!
# Proofs/Delivery — what is delivered to a recorder is removed or still there

    requests    deliver d    tokenize s     take         clear    build e
    recorded    d            d w₁ w₂        ·            ·        e
    removed                                 d w₁ w₂      ·

Whatever the requests, what was removed and what is still recorded make up what was delivered, in
order and each once; a strict recorder leaves out the errors, which it refuses.  What a request
delivers is read off the request (`Request.delivered`), not off the recorder.  One request keeps
that balance (`Booked`), and so do many (`answerAll_balance`).

The request that takes thought is a run over a source: it delivers what is due for the lexemes of
the source, and a strict recorder ends it at the first unknown token.  A run is completed or
abandoned (`Ran`), and what an abandoned one leaves behind are the warnings of the tokens before
that one (`Abandoned`).
-/

namespace BasicTokens

open Grammar Lexeme

/-- Whether a token is a string that lacks its closing quote. -/
def Token.isUnclosed (t : Token) : Bool := t.kind == .string && !isStringLiteral t.text

namespace Recorder

variable {strict : Bool} {d : Diagnostic} {front back : List Diagnostic}

/-! ## Refused deliveries -/

/-- The diagnostics up to the first one that is refused, which is the last to be delivered. -/
def untilRefused (strict : Bool) : List Diagnostic → List Diagnostic
  | [] => []
  | d :: more => if strict && d.isError then [d] else d :: untilRefused strict more

/-- If no error is refused, all is delivered. -/
theorem untilRefused_of_clean (h : strict = true → ∀ d ∈ front, d.isError = false) :
    untilRefused strict front = front := by
  induction front with
  | nil => rfl
  | cons d front ih =>
    have hd : ¬ (strict && d.isError) = true := fun hboth => by
      obtain ⟨hstrict, herror⟩ := Bool.and_eq_true_iff.mp hboth
      exact absurd herror (by simp [h hstrict d List.mem_cons_self])
    rw [untilRefused, if_neg hd, ih fun hstrict e he => h hstrict e (List.mem_cons_of_mem d he)]

/-- A refused error ends the delivery. -/
theorem untilRefused_of_error (hfront : ∀ e ∈ front, e.isError = false) (hd : d.isError = true) :
    untilRefused true (front ++ d :: back) = front ++ [d] := by
  induction front with
  | nil => simp [untilRefused, hd]
  | cons e front ih =>
    have he : ¬ (true && e.isError) = true := by simp [hfront e List.mem_cons_self]
    rw [List.cons_append, untilRefused, if_neg he,
      ih fun e' he' => hfront e' (List.mem_cons_of_mem e he'), List.cons_append]

/-- What is kept of a delivery that is refused at the end. -/
theorem kept_append_error (hfront : ∀ e ∈ front, e.isError = false) (hd : d.isError = true) :
    kept true (front ++ [d]) = front := by
  rw [kept_append, kept_eq_self fun _ => hfront]
  simp [kept, hd]

section

variable [Text.CharacterData] {settings : Settings} {source : Text} {r : Recorder}
  {request : Request}

/-! ## What requests deliver and remove -/

/-- The diagnostics that the lexemes of a source give cause for, in order. -/
def due (settings : Settings) (source : Text) : List Diagnostic :=
  (ofSource settings source).filterMap (·.diagnostic? settings)

/-- The diagnostics that a request delivers. -/
def Request.delivered (strict : Bool) : Request → List Diagnostic
  | .deliver d => [d]
  | .buildError span message parts => [.ofParts .error message (.span span :: parts)]
  | .buildWarning span message parts => [.ofParts .warning message (.span span :: parts)]
  | .tokenize settings source => untilRefused strict (due settings source)
  | _ => []

/-- The diagnostics that a request removes: those that it hands over, or makes forgotten. -/
def removed (r : Recorder) : Request → List Diagnostic
  | .take =>
    match (r.answer .take).1 with
    | .diagnostics handed => handed
    | _ => []
  | .clear => r.recorded
  | _ => []

/-- The diagnostics that requests made one after the other remove. -/
def removedAll (r : Recorder) : List Request → List Diagnostic
  | [] => []
  | request :: requests => r.removed request ++ (r.answer request).2.removedAll requests

/-! ## A run over a source -/

/-- **What an abandoned run leaves behind.**  The lexemes before the first unknown one were accepted
with the warnings about the open strings among them, and these are recorded; the diagnostic `d` of
the unknown one is refused. -/
structure Abandoned (settings : Settings) (source : Text) (r after : Recorder) (d : Diagnostic)
    (accepted : List Lexeme) (unknown : Lexeme) (warnings : List Diagnostic) : Prop where
  lexemes_eq : ∃ more, ofSource settings source = accepted ++ unknown :: more
  tokens_eq : ∃ more, (tokenizeCollecting settings source).1
    = accepted.map (·.token settings) ++ unknown.token settings :: more
  first : ∀ l ∈ accepted, (l.token settings).isUnknown = false
  isUnknown : (unknown.token settings).isUnknown = true
  due_eq : unknown.diagnostic? settings = some d
  reported : (unknown.token settings).Reported source d
  warnings_eq : warnings = accepted.filterMap (·.diagnostic? settings)
  warned : List.Forall₂ (Token.Reported source)
    ((accepted.map (·.token settings)).filter Token.isUnclosed) warnings
  level_eq : ∀ w ∈ warnings, w.level = .warning
  recorded_eq : after.recorded = r.recorded ++ warnings

/-- **What comes of a run** that reports to a recorder: it is completed and all is recorded, or the
recorder is strict and it is abandoned. -/
inductive Ran (settings : Settings) (source : Text) (r : Recorder) : Reply × Recorder → Prop
  | completed {after : Recorder}
      (clean : r.strict = true → ∀ d ∈ due settings source, d.isError = false)
      (strict_eq : after.strict = r.strict)
      (recorded_eq : after.recorded = r.recorded ++ due settings source) :
      Ran settings source r (.tokens ((ofSource settings source).map (·.token settings)), after)
  | abandoned {after : Recorder} {refusal : Refusal} {accepted : List Lexeme} {unknown : Lexeme}
      {warnings : List Diagnostic} (refuses : r.strict = true)
      (strict_eq : after.strict = r.strict)
      (leaves : Abandoned settings source r after refusal.diagnostic accepted unknown warnings) :
      Ran settings source r (.refused refusal, after)

namespace Abandoned

variable {after : Recorder} {accepted : List Lexeme} {unknown : Lexeme}
  {warnings : List Diagnostic}

theorem isError (h : Abandoned settings source r after d accepted unknown warnings) :
    d.isError = true := by
  rw [Diagnostic.isError, h.reported.level_eq, h.isUnknown]
  rfl

theorem clean (h : Abandoned settings source r after d accepted unknown warnings) :
    ∀ w ∈ warnings, w.isError = false := fun w hw => by
  rw [Diagnostic.isError, h.level_eq w hw]
  rfl

/-- It delivered the warnings, and the diagnostic that was refused. -/
theorem untilRefused_eq (h : Abandoned settings source r after d accepted unknown warnings) :
    untilRefused true (due settings source) = warnings ++ [d] := by
  obtain ⟨more, hmore⟩ := h.lexemes_eq
  have hdue : due settings source = warnings ++ d :: more.filterMap (·.diagnostic? settings) := by
    rw [due, hmore, List.filterMap_append, ← h.warnings_eq, filterMap_diagnostic?_cons, h.due_eq]
    rfl
  rw [hdue, untilRefused_of_error h.clean h.isError]

end Abandoned

/-- **What is accepted with a warning**: of the tokens that are not unknown, the open strings. -/
theorem forall₂_warned {accepted : List Lexeme}
    (hmem : ∀ l ∈ accepted, l ∈ ofSource settings source)
    (hclean : ∀ l ∈ accepted, (l.token settings).isUnknown = false) :
    List.Forall₂ (Token.Reported source)
      ((accepted.map (·.token settings)).filter Token.isUnclosed)
      (accepted.filterMap (·.diagnostic? settings)) := by
  induction accepted with
  | nil => exact .nil
  | cons l accepted ih =>
    rw [List.forall_mem_cons] at hmem hclean
    have ih := ih hmem.2 hclean.2
    have hfaulty : (l.token settings).isFaulty = (l.token settings).isUnclosed := by
      rw [Token.isFaulty, hclean.1, Bool.false_or, Token.isUnclosed]
    rw [filterMap_diagnostic?_cons, List.map_cons]
    obtain ⟨hnone, hclosed⟩ | ⟨w, hw, hopen, hreported⟩ := diagnostic?_of_mem hmem.1
    · rwa [hnone, List.filter_cons_of_neg (by simp [← hfaulty, hclosed])]
    · rw [hw, List.filter_cons_of_pos (hfaulty ▸ hopen)]
      exact .cons hreported ih

theorem level_of_accepted {accepted : List Lexeme}
    (hmem : ∀ l ∈ accepted, l ∈ ofSource settings source)
    (hclean : ∀ l ∈ accepted, (l.token settings).isUnknown = false) :
    ∀ w ∈ accepted.filterMap (·.diagnostic? settings), w.level = .warning := by
  intro w hw
  obtain ⟨l, hl, hw⟩ := List.mem_filterMap.mp hw
  rw [(reported_of_diagnostic? (hmem l hl) hw).2.level_eq, hclean l hl]
  rfl

section

variable {after : Recorder} {accepted rest : List Lexeme} {l : Lexeme}

/-- **What is left behind at the first unknown token** of a source, if the warnings before it are
recorded. -/
theorem Abandoned.of_split (hsource : ofSource settings source = accepted ++ l :: rest)
    (hclean : ∀ m ∈ accepted, (m.token settings).isUnknown = false)
    (hunknown : (l.token settings).isUnknown = true) (hd : l.diagnostic? settings = some d)
    (hrecorded : after.recorded = r.recorded ++ accepted.filterMap (·.diagnostic? settings)) :
    Abandoned settings source r after d accepted l
      (accepted.filterMap (·.diagnostic? settings)) := by
  have hmem : ∀ m ∈ accepted, m ∈ ofSource settings source := fun m hm =>
    hsource ▸ List.mem_append_left _ hm
  have hl : l ∈ ofSource settings source := by simp [hsource]
  exact {
    lexemes_eq := ⟨rest, hsource⟩
    tokens_eq := ⟨rest.map (·.token settings), by
      rw [tokenizeCollecting_eq, hsource, List.map_append, List.map_cons]⟩
    first := hclean
    isUnknown := hunknown
    due_eq := hd
    reported := (reported_of_diagnostic? hl hd).2
    warnings_eq := rfl
    warned := forall₂_warned hmem hclean
    level_eq := level_of_accepted hmem hclean
    recorded_eq := hrecorded }

/-- **Without an unknown token in the way, a run is completed.** -/
theorem ran_of_clean (hclean : r.strict = true →
    ∀ l ∈ ofSource settings source, (l.token settings).isUnknown = false) :
    Ran settings source r (r.answer (.tokenize settings source)) := by
  have haccepts : r.strict = true → ∀ l ∈ ofSource settings source,
      ∀ d ∈ l.diagnostic? settings, d.isError = false := fun hr =>
    isError_eq_false_of_clean (fun _ => id) (hclean hr)
  obtain ⟨after, htell, hstrict, hrecorded⟩ := tellAll_of_accepts haccepts
  obtain ⟨lexer, heq⟩ := tokenize_of_ok htell
  have hanswer : r.answer (.tokenize settings source)
      = (.tokens ((ofSource settings source).map (·.token settings)), after) := by
    simp only [answer, heq]
    rfl
  rw [hanswer]
  refine .completed (fun hr d hd => ?_) hstrict hrecorded
  obtain ⟨l, hl, hd⟩ := List.mem_filterMap.mp hd
  exact haccepts hr l hl d hd

/-- **At the first unknown token, a strict recorder makes a run be abandoned.** -/
theorem ran_of_unknown (hr : r.strict = true)
    (hsource : ofSource settings source = accepted ++ l :: rest)
    (hclean : ∀ m ∈ accepted, (m.token settings).isUnknown = false)
    (hunknown : (l.token settings).isUnknown = true) :
    Ran settings source r (r.answer (.tokenize settings source)) := by
  have hmem : ∀ m ∈ accepted, m ∈ ofSource settings source := fun m hm =>
    hsource ▸ List.mem_append_left _ hm
  have hl : l ∈ ofSource settings source := by simp [hsource]
  obtain ⟨d, hd⟩ := exists_diagnostic?_of_isUnknown hl hunknown
  have herror : d.isError = true := (isError_of_diagnostic? hl hd).trans hunknown
  have haccepts := isError_eq_false_of_clean hmem hclean
  obtain ⟨after, htell, hstrict, hrecorded⟩ :=
    tellAll_of_accepts fun _ : r.strict = true => haccepts
  have hrefuses := tell_of_refuses (hstrict.trans hr) hd herror
  obtain ⟨lexer, heq⟩ := tokenize_of_refusal hsource htell hrefuses
  have hanswer : r.answer (.tokenize settings source) = (.refused ⟨d⟩, after) := by
    simp only [answer, heq]
  rw [hanswer]
  exact .abandoned hr hstrict (.of_split hsource hclean hunknown hd hrecorded)

end

/-- **A run that reports to a recorder is completed or abandoned.** -/
theorem ran_answer (settings : Settings) (source : Text) (r : Recorder) :
    Ran settings source r (r.answer (.tokenize settings source)) := by
  obtain hclean | ⟨hr, accepted, l, rest, hsource, hclean, hunknown⟩ :=
    clean_or_exists_unknown r.strict settings (ofSource settings source)
  · exact ran_of_clean hclean
  · exact ran_of_unknown hr hsource hclean hunknown

/-! ## The account -/

/-- **How one request is booked**: what it removes and what is recorded after it make up what was
recorded before it and what is kept of its delivery, and it is refused if and only if it delivers an
error to a strict recorder. -/
structure Booked (r : Recorder) (request : Request) : Prop where
  strict_eq : (r.answer request).2.strict = r.strict
  balance : r.removed request ++ (r.answer request).2.recorded
    = r.recorded ++ kept r.strict (request.delivered r.strict)
  refused_iff : (∃ refusal, (r.answer request).1 = .refused refusal) ↔
    r.strict = true ∧ ∃ d ∈ request.delivered r.strict, d.isError = true

/-- **A request that only delivers a diagnostic** is booked. -/
theorem booked_of_replyTo (hremoved : r.removed request = [])
    (hanswer : r.answer request = r.replyTo (r.receive d))
    (hdelivered : request.delivered r.strict = [d]) : r.Booked request := by
  rcases hreceive : r.receive d with refusal | r'
  · obtain ⟨hstrict, herror, rfl⟩ := receive_eq_error_iff.mp hreceive
    rw [hreceive, replyTo] at hanswer
    refine ⟨by rw [hanswer], ?_, ?_⟩
    · rw [hremoved, hanswer, hdelivered]
      simp [kept, hstrict, herror]
    · rw [hanswer, hdelivered]
      simp [hstrict, herror]
  · obtain ⟨haccepts, -⟩ := receive_eq_ok_iff.mp hreceive
    obtain ⟨hrecorded, hstrict⟩ := recorded_of_receive hreceive
    rw [hreceive, replyTo] at hanswer
    refine ⟨by rw [hanswer, hstrict], ?_, ?_⟩
    · have hkept : kept r.strict [d] = [d] := kept_eq_self (by simpa using haccepts)
      rw [hanswer, hremoved, hdelivered, hkept, List.nil_append, hrecorded]
    · simpa [hanswer, hdelivered] using haccepts

theorem booked_tokenize (r : Recorder) (settings : Settings) (source : Text) :
    r.Booked (.tokenize settings source) := by
  have hran := r.ran_answer settings source
  generalize hanswer : r.answer (.tokenize settings source) = answered at hran
  cases hran with
  | @completed after clean strict_eq recorded_eq =>
    have hdelivered : Request.delivered r.strict (.tokenize settings source)
        = due settings source := untilRefused_of_clean clean
    refine ⟨by rw [hanswer, strict_eq], ?_, ?_⟩
    · rw [hanswer, hdelivered, kept_eq_self clean]
      exact recorded_eq
    · rw [hanswer, hdelivered]
      simpa using clean
  | @abandoned after refusal accepted unknown warnings refuses strict_eq leaves =>
    have hdelivered : Request.delivered r.strict (.tokenize settings source)
        = warnings ++ [refusal.diagnostic] := by
      rw [refuses]
      exact leaves.untilRefused_eq
    refine ⟨by rw [hanswer, strict_eq], ?_, ?_⟩
    · rw [hanswer, hdelivered, refuses, kept_append_error leaves.clean leaves.isError]
      exact leaves.recorded_eq
    · rw [hanswer, hdelivered]
      simp [refuses, leaves.isError]

/-- **Every request is booked.** -/
theorem booked (r : Recorder) (request : Request) : r.Booked request := by
  cases request with
  | deliver d => exact booked_of_replyTo rfl rfl rfl
  | buildError span message parts =>
    exact booked_of_replyTo rfl
      (congrArg r.replyTo
        (Diagnostic.Builder.emit_recorder .error message (.span span :: parts) r)) rfl
  | buildWarning span message parts =>
    exact booked_of_replyTo rfl
      (congrArg r.replyTo
        (Diagnostic.Builder.emit_recorder .warning message (.span span :: parts) r)) rfl
  | tokenize settings source => exact r.booked_tokenize settings source
  | list => exact ⟨rfl, (List.append_nil _).symm, by simp [answer, Request.delivered]⟩
  | take => exact ⟨rfl, rfl, by simp [answer, Request.delivered]⟩
  | clear => exact ⟨rfl, rfl, by simp [answer, Request.delivered]⟩

/-- **The balance of many requests.** -/
theorem answerAll_balance (requests : List Request) : ∀ r : Recorder,
    (r.answerAll requests).2.strict = r.strict ∧
      r.removedAll requests ++ (r.answerAll requests).2.recorded
        = r.recorded ++ kept r.strict (requests.flatMap (·.delivered r.strict)) := by
  induction requests with
  | nil => exact fun r => ⟨rfl, by simp [removedAll, answerAll, kept]⟩
  | cons request requests ih =>
    intro r
    obtain ⟨hstrict, hbalance, -⟩ := r.booked request
    obtain ⟨hstrict', hbalance'⟩ := ih (r.answer request).2
    refine ⟨hstrict'.trans hstrict, ?_⟩
    calc r.removedAll (request :: requests) ++ (r.answerAll (request :: requests)).2.recorded
        = r.removed request ++ ((r.answer request).2.removedAll requests
            ++ ((r.answer request).2.answerAll requests).2.recorded) :=
          List.append_assoc _ _ _
      _ = r.removed request ++ (r.answer request).2.recorded
            ++ kept r.strict (requests.flatMap (·.delivered r.strict)) := by
          rw [hbalance', hstrict, List.append_assoc]
      _ = r.recorded ++ kept r.strict ((request :: requests).flatMap (·.delivered r.strict)) := by
          rw [hbalance, List.flatMap_cons, kept_append, List.append_assoc]

/-- A strict recorder has no errors. -/
theorem isError_of_mem_recorded (requests : List Request) (hstrict : strict = true)
    (hd : d ∈ (({ strict } : Recorder).answerAll requests).2.recorded) : d.isError = false := by
  obtain ⟨-, hbalance⟩ := answerAll_balance requests { strict }
  have hmem := List.mem_append_right (({ strict } : Recorder).removedAll requests) hd
  rw [hbalance] at hmem
  obtain ⟨-, hkept⟩ := List.mem_filter.mp (show d ∈ kept strict _ from hmem)
  simpa [hstrict] using hkept

/-- **Nothing delivered is lost, and nothing is there twice.**  Whatever was asked of a recorder,
what was handed over, forgotten and is still recorded is what was delivered, but for the errors that
a strict one refused; the counts are those of what is recorded.  A request is refused if and only if
it delivers an error to a strict recorder, and a run over a source leaves behind what is due before
its first unknown token. -/
theorem answerAll_conserves (strict : Bool) (requests : List Request) :
    let r := (({ strict } : Recorder).answerAll requests).2
    ({ strict } : Recorder).removedAll requests ++ r.recorded
        = kept strict (requests.flatMap (·.delivered strict)) ∧
      r.errorCount = (r.recorded.filter (·.level == .error)).length ∧
      r.warningCount = (r.recorded.filter (·.level == .warning)).length ∧
      (r.hasErrors = true ↔ ∃ d ∈ r.recorded, d.isError = true) ∧
      (strict = true → ∀ d ∈ r.recorded, d.isError = false) ∧
      (∀ request, (∃ refusal, (r.answer request).1 = .refused refusal) ↔
        strict = true ∧ ∃ d ∈ request.delivered strict, d.isError = true) ∧
      ∀ settings source refusal,
        (r.answer (.tokenize settings source)).1 = .refused refusal →
          ∃ accepted unknown warnings, Abandoned settings source r
            (r.answer (.tokenize settings source)).2 refusal.diagnostic accepted unknown
            warnings := by
  intro r
  obtain ⟨hstrict, hbalance⟩ := answerAll_balance requests { strict }
  have hr : r.strict = strict := hstrict
  refine ⟨hbalance, List.countP_eq_length_filter, List.countP_eq_length_filter, List.any_eq_true,
    fun h d hd => isError_of_mem_recorded requests h hd, fun request => ?_, ?_⟩
  · exact hr ▸ (r.booked request).refused_iff
  · intro settings source refusal hrefused
    have hran := r.ran_answer settings source
    generalize r.answer (.tokenize settings source) = answered at hran hrefused ⊢
    cases hran with
    | completed => simp at hrefused
    | @abandoned after refusal' accepted unknown warnings _ _ leaves =>
      obtain rfl : refusal' = refusal := by simpa using hrefused
      exact ⟨accepted, unknown, warnings, leaves⟩

end

/-- A strict recorder in use: a run is abandoned at its second line, after a warning. -/
theorem answerAll_conserves_open_string :
    let w : Diagnostic := { level := .warning, message := "w".toList }
    let requests : List Request :=
      [.deliver w, .take, .buildWarning .nowhere "v".toList [.note "n".toList], .clear,
        .buildError .nowhere "e".toList [.code .unknownToken], .deliver w]
    let r := (({ strict := true } : Recorder).answerAll requests).2
    let settings : Settings := { unterminatedStrings := .extendToLineEnd }
    let source : Text := "\"a\n@ \"b".toList
    (({ strict := true } : Recorder).removedAll requests ++ r.recorded
        = [w, { level := .warning, message := "v".toList, notes := ["n".toList] }, w]) ∧
      (∀ d ∈ r.recorded, d.isError = false) ∧
      ∃ refusal accepted unknown warnings,
        (r.answer (.tokenize settings source)).1 = .refused refusal ∧
          Abandoned settings source r (r.answer (.tokenize settings source)).2
            refusal.diagnostic accepted unknown warnings := by
  intro w requests r settings source
  obtain ⟨hbalance, -, -, -, hnoErrors, hrefused, habandoned⟩ := answerAll_conserves true requests
  obtain ⟨refusal, hrefusal⟩ := (hrefused (.tokenize settings source)).mpr
    ⟨rfl, by decide +kernel⟩
  obtain ⟨accepted, unknown, warnings, hleaves⟩ := habandoned settings source refusal hrefusal
  exact ⟨hbalance.trans (by decide +kernel), hnoErrors rfl, refusal, accepted, unknown, warnings,
    hrefusal, hleaves⟩

end Recorder

end BasicTokens
