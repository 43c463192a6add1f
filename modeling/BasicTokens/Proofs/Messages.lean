import BasicTokens.Character
import BasicTokens.LexicalError
import BasicTokens.Proofs.Rendering

/-!
# Proofs/Messages — a reported error can be read back

    unknown token "x\" at position 5" at position 2
    subject       quoted text         offset

The subject has no quote, the quoted text ends where it must and the rest is a numeral, so a message
has one text and one offset (`LexicalError.message_inj`) and is all printable.  The headline adds
the code, which tells the cause, and the level, which tells whether the error was recovered.  None
of this depends on which characters are unprintable (`CharacterData`).
-/

namespace BasicTokens

open Character Text

namespace LexicalError

variable {e e' : LexicalError} {a b : Span} {c : Char}

/-! ## Errors -/

/-- No subject has a quote. -/
theorem quote_not_mem_subject (e : LexicalError) : '"' ∉ e.subject := by
  have h : e.subject.contains '"' = false := by cases e <;> rfl
  simpa using h

theorem recovered_eq_of_level (h : e.level = e'.level) : e.recovered = e'.recovered := by
  rcases hrecovered : e.recovered <;> rcases hrecovered' : e'.recovered <;>
    simp_all [level]

/-- An error is known by its code, its text, its offset and its recovery. -/
theorem eq_of_code (hcode : e.code = e'.code) (htext : e.text = e'.text)
    (hoffset : e.offset = e'.offset) (hrecovered : e.recovered = e'.recovered) : e = e' := by
  cases e <;> cases e' <;> simp_all [code, text, offset, recovered, Diagnostic.Code.unexpectedCharacter,
    Diagnostic.Code.unterminatedString, Diagnostic.Code.invalidNumber, Diagnostic.Code.unknownToken]

section Readable

variable [CharacterData]

/-! ## Messages -/

/-- **A message hides nothing**: every character of it is printable. -/
theorem isUnprintable_of_mem_message (h : c ∈ e.message) : isUnprintable c = false := by
  have hplain : ∀ {t : Text}, (t.all fun c => 0x20 ≤ c.toNat && c.toNat < 0x7f) = true →
      c ∈ t → isUnprintable c = false := fun hall hc => by
    have hascii := List.all_eq_true.mp hall c hc
    rw [Bool.and_eq_true, decide_eq_true_eq, decide_eq_true_eq] at hascii
    exact isUnprintable_of_ascii hascii.1 hascii.2
  simp only [message, List.mem_append] at h
  obtain ((hsubject | hquoted) | hposition) | hoffset := h
  · exact hplain (by cases e <;> rfl) hsubject
  · exact isUnprintable_of_mem_quoted hquoted
  · exact hplain rfl hposition
  · obtain ⟨d, hd, rfl⟩ := exists_digitChar (by omega) hoffset
    exact isUnprintable_digitChar (by omega)

/-- …so none is a control character. -/
theorem isControl_of_mem_message (h : c ∈ e.message) : isControl c = false := by
  by_contra hcontrol
  have hcontrol : isControl c = true := by simpa using hcontrol
  exact absurd (isUnprintable_of_mem_message h) (by simp [isUnprintable_of_isControl hcontrol])

/-- …and none ends a line. -/
theorem isLineEnd_of_mem_message (h : c ∈ e.message) : isLineEnd c = false := by
  have hno : ∀ d : Char, isControl d = true → c ≠ d := fun d hd heq =>
    absurd (isControl_of_mem_message h) (by simp [heq, hd])
  simp [isLineEnd, hno '\n' (by decide), hno '\r' (by decide)]

/-- **A message has one subject, one text and one offset.** -/
theorem message_inj (h : e.message = e'.message) :
    e.subject = e'.subject ∧ e.text = e'.text ∧ e.offset = e'.offset := by
  simp only [message, List.append_assoc] at h
  obtain ⟨hsubject, -⟩ := append_mark_inj e.quote_not_mem_subject e'.quote_not_mem_subject h
  rw [hsubject] at h
  obtain ⟨htext, hrest⟩ := selfDelimiting_quoted _ _ _ _ (List.append_cancel_left h)
  exact ⟨hsubject, htext, decimal_injective (List.append_cancel_left hrest)⟩

/-! ## Reports -/

/-- The texts of a report are lines. -/
theorem report_lined (e : LexicalError) (a : Span) : (e.report a).Lined where
  message := by
    rw [message_report]
    exact fun h => absurd (isLineEnd_of_mem_message h) (by decide)
  notes := by
    rw [notes_report, notes]
    split <;> decide
  helps := by
    rw [helps_report]
    fun_cases helps e <;> decide
  code := by
    rw [code_report]
    rintro c ⟨⟩
    cases e <;> exact Or.inl rfl

end Readable

/-- **Reports can be read back**, whatever the character database.  A message is on one line,
without control characters; and reports with the same text form are reports of the same error, at
places with the same line and column. -/
theorem eq_of_render_report [CharacterData] (e e' : LexicalError) (a b : Span) :
    (∀ c ∈ e.message, isControl c = false ∧ isLineEnd c = false) ∧
    ((e.report a).render = (e'.report b).render →
      e = e' ∧ a.line = b.line ∧ a.column = b.column) := by
  refine ⟨fun c hc => ⟨?_, ?_⟩, fun h => ?_⟩
  · exact isControl_of_mem_message hc
  · exact isLineEnd_of_mem_message hc
  · obtain ⟨hheadline, hdetails⟩ := (e.report_lined a).render_inj (e'.report_lined b) h
    obtain ⟨hlevel, hcode, hmessage⟩ := (e.report_lined a).headline_inj (e'.report_lined b) hheadline
    rw [level_report, level_report] at hlevel
    rw [code_report, code_report] at hcode
    rw [message_report, message_report] at hmessage
    obtain ⟨-, htext, hoffset⟩ := message_inj hmessage
    obtain rfl := eq_of_code (Option.some.inj hcode) htext hoffset (recovered_eq_of_level hlevel)
    -- with the error, notes and helps are the same
    rw [Diagnostic.details_eq, Diagnostic.details_eq] at hdetails
    simp only [span_report, notes_report, helps_report] at hdetails
    have hplace := List.append_cancel_right (List.append_cancel_right hdetails)
    exact ⟨rfl, (Diagnostic.place_inj hplace).2⟩

/-- Only line and column of a place are shown.  The text of the error has a quote and a line feed.
-/
theorem eq_of_render_report_recovered :
    let e : LexicalError := .unterminatedString ['"', '\n'] 4 true
    let a : Span := ⟨4, 6, 1, 5⟩
    let b : Span := ⟨9, 9, 1, 5⟩
    (e.report a).render = (e.report b).render ∧ a.line = b.line ∧ a.column = b.column := by
  intro e a b
  have h : (e.report a).render = (e.report b).render := by decide +kernel
  exact ⟨h, ((eq_of_render_report e e a b).2 h).2⟩

/-- A text may imitate what follows it. -/
example : message (.unknownToken "x\" at position 5".toList 2)
    = "unknown token \"x\\\" at position 5\" at position 2".toList := by
  decide +kernel

end LexicalError

end BasicTokens
