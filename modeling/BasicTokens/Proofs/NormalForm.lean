import BasicTokens.Proofs.Reprint
import BasicTokens.Proofs.UpperCase

/-!
# Proofs/NormalForm — classification of any text, with blanks around it or without

    text     before │ core │ after        blanks, what is classified, blanks
    token             core                 at the offset of `core`

A text is its core in a frame of blanks (`Text.exists_framed`), and a token is made of the core
alone (`Token.classify_of_framed`).  So blanks around a text only move its token, and classifying
the text of a token again gives the same token.  The one exception is the reserved word `REM`: in
upper case it is the comment marker.
-/

namespace BasicTokens

open Character Grammar Text

/-! ## Frames -/

/-- **A text in a frame**: characters that satisfy `p` around a core that neither begins nor ends
with one.  All of a text without a core stands before it. -/
structure Text.Framed (p : Char → Bool) (before core after t : Text) : Prop where
  text_eq : t = before ++ (core ++ after)
  before_all : ∀ c ∈ before, p c = true
  after_all : ∀ c ∈ after, p c = true
  begins : beginsWith p core = false
  ends : endsWith p core = false
  after_eq_nil : core = [] → after = []

namespace Text

variable {p : Char → Bool} {before core after s t u v : Text}

/-- Every text has a core. -/
theorem exists_framed (p : Char → Bool) (t : Text) :
    ∃ before core after, Framed p before core after t := by
  obtain ⟨before, rest, rfl, hbefore, hrest⟩ := exists_run p t
  obtain ⟨core, after, rfl, hends, hafter⟩ := exists_trimEnd p rest
  have hnil : core = [] → after = [] := by
    rintro rfl
    by_contra hne
    exact absurd (beginsWith_of_forall hne hafter) (by simpa using hrest)
  refine ⟨before, core, after, rfl, hbefore, hafter, ?_, hends, hnil⟩
  by_cases hcore : core = []
  · rw [hcore, beginsWith_nil]
  · rwa [beginsWith_append hcore] at hrest

namespace Framed

/-- The core does not begin with `p`, and nothing comes after an empty one. -/
theorem beginsWith_core_append (h : Framed p before core after t) :
    beginsWith p (core ++ after) = false := by
  by_cases hcore : core = []
  · rw [hcore, h.after_eq_nil hcore, List.append_nil, beginsWith_nil]
  · rw [beginsWith_append hcore, h.begins]

theorem takeWhile_eq (h : Framed p before core after t) : t.takeWhile p = before := by
  rw [h.text_eq, takeWhile_append_stop h.before_all h.beginsWith_core_append]

/-- **Trimming leaves the core.** -/
theorem trim_eq (h : Framed p before core after t) : trim p t = core := by
  rw [trim, h.text_eq, dropWhile_append_stop h.before_all h.beginsWith_core_append,
    trimEnd_append h.ends h.after_all]

/-- A character that fails `p` is in the core. -/
theorem core_ne_nil (h : Framed p before core after t) (ht : ∃ c ∈ t, p c = false) :
    core ≠ [] := by
  rintro rfl
  obtain ⟨c, hc, hno⟩ := ht
  rw [h.text_eq, h.after_eq_nil rfl, List.append_nil, List.append_nil] at hc
  exact absurd (h.before_all c hc) (by simp [hno])

/-- **More around a text is more around its core.** -/
theorem pad (h : Framed p before core after t) (hcore : core ≠ []) (hu : ∀ c ∈ u, p c = true)
    (hv : ∀ c ∈ v, p c = true) : Framed p (u ++ before) core (after ++ v) (u ++ t ++ v) where
  text_eq := by simp only [h.text_eq, List.append_assoc]
  before_all := List.forall_mem_append.mpr ⟨hu, h.before_all⟩
  after_all := List.forall_mem_append.mpr ⟨h.after_all, hv⟩
  begins := h.begins
  ends := h.ends
  after_eq_nil := fun hnil => absurd hnil hcore

end Framed

end Text

/-! ## Tokens of framed texts -/

namespace Token

variable {settings : Settings} {before core after s t : Text} {o : Nat}

/-- **A token is made of the core**, at its place. -/
theorem classify_of_framed (h : Framed isBlank before core after t) :
    classify settings t o = ofTrimmed settings core (o + before.length) := by
  rw [classify_eq, h.trim_eq, h.takeWhile_eq]

/-- The offset moves by the bytes of the blanks in front. -/
theorem offset_classify (settings : Settings) (s : Text) (o : Nat) :
    (classify settings s o).offset
      = o + (s.byteLength - Text.byteLength (s.dropWhile isBlank)) :=
  (text_ofTrimmed settings _ _).1

/-- The text of a token has as many characters as the core, and differs from it at most in the case
of letters. -/
theorem text_ofTrimmed_core (settings : Settings) (core : Text) (o : Nat) :
    (ofTrimmed settings core o).length = core.length ∧
      if (ofTrimmed settings core o).kind = .keyword then
        (ofTrimmed settings core o).text.equalsIgnoringCase core = true
      else (ofTrimmed settings core o).text = core := by
  have htext := (text_ofTrimmed settings core o).2
  by_cases hkind : (ofTrimmed settings core o).kind = .keyword
  · rw [if_pos hkind] at htext ⊢
    rw [length, equalsIgnoringCase, htext.1, toUpper_toUpper, beq_self_eq_true]
    exact ⟨length_toUpper, rfl⟩
  · rw [if_neg hkind] at htext ⊢
    exact ⟨congrArg List.length htext, htext⟩

/-- **A token stands in the text it is made of**, which began at `o`: its characters are those from
its offset to its end, but for the case of letters in a reserved word, and around them there are
only blanks. -/
structure StandsIn (t : Token) (s : Text) (o : Nat) : Prop where
  offset_le : o ≤ t.offset
  endOffset_le : t.endOffset ≤ o + s.length
  text_eq : if t.kind = .keyword then
      t.text.equalsIgnoringCase (s.extract (t.offset - o) (t.endOffset - o)) = true
    else t.text = s.extract (t.offset - o) (t.endOffset - o)
  blank_before : ∀ c ∈ s.take (t.offset - o), isBlank c = true
  blank_after : ∀ c ∈ s.drop (t.endOffset - o), isBlank c = true

theorem standsIn_of_framed (h : Framed isBlank before core after s) :
    StandsIn (classify settings s o) s o := by
  obtain ⟨hlength, htext⟩ := text_ofTrimmed_core settings core (o + before.length)
  have hoffset := (text_ofTrimmed settings core (o + before.length)).1
  rw [← classify_of_framed h] at hlength htext hoffset
  have hend : (classify settings s o).endOffset = o + before.length + core.length := by
    rw [endOffset, hoffset, hlength]
  have hstart : (classify settings s o).offset - o = before.length := by omega
  have hstop : (classify settings s o).endOffset - o = (before ++ core).length := by
    rw [List.length_append]
    omega
  have hsource : s = (before ++ core) ++ after := h.text_eq.trans (List.append_assoc ..).symm
  refine ⟨by omega, ?_, ?_, ?_, ?_⟩
  · rw [hend, hsource, List.length_append, List.length_append]
    omega
  · have hextract : s.extract before.length (before ++ core).length = core := by
      rw [List.extract_eq_take_drop, List.length_append, Nat.add_sub_cancel_left, h.text_eq,
        List.drop_left, List.take_left]
    rwa [hstart, hstop, hextract]
  · rw [hstart, h.text_eq, List.take_left]
    exact h.before_all
  · rw [hstop, hsource, List.drop_left]
    exact h.after_all

/-! ## Classified again -/

/-- **A reserved word in upper case is itself**, and `REM` is the comment marker. -/
theorem classify_keyword {k : Text} (hk : k ∈ keywords) (settings : Settings) (o : Nat) :
    classify settings k o = ⟨if k = remark then .comment else .keyword, k, o⟩ := by
  obtain ⟨⟨category, hcut⟩, htext, hkind⟩ := Lexeme.reprint_keyword hk settings o
  rw [classify_of_trimmed hcut.beginsWith_isBlank hcut.endsWith_isBlank, ← hkind]
  exact congrArg₂ (Token.mk _) htext (text_ofTrimmed settings k o).1

/-- The text of a token is classified as the token again, unless it is the reserved word `REM`. -/
theorem classify_text (settings : Settings) (s : Text) (o : Nat) :
    let t := classify settings s o
    classify settings t.text t.offset
      = if t.kind = .keyword ∧ t.text = remark then ⟨.comment, remark, t.offset⟩ else t := by
  intro t
  obtain ⟨before, core, after, h⟩ := exists_framed isBlank s
  have ht : t = ofTrimmed settings core (o + before.length) := classify_of_framed h
  obtain ⟨hoffset, htext⟩ := text_ofTrimmed settings core (o + before.length)
  rw [← ht] at hoffset htext
  by_cases hkind : t.kind = .keyword
  · rw [if_pos hkind] at htext
    rw [classify_keyword htext.2]
    by_cases hremark : t.text = remark
    · rw [if_pos hremark, if_pos ⟨hkind, hremark⟩, hremark]
    · rw [if_neg hremark, if_neg fun hand => hremark hand.2, ← hkind]
  · rw [if_neg hkind] at htext
    rw [if_neg fun hand => hkind hand.1, htext, classify_of_trimmed h.begins h.ends, hoffset, ht]

/-- **Classification is a normal form.**  Blanks around a text that is not blank only move its
token; the token of any text stands in it, further on by the bytes of the blanks in front; and its
text is classified as the same token, save that the reserved word `REM` becomes a comment. -/
theorem classify_normalForm (settings : Settings) (s : Text) (o : Nat) :
    ((∃ c ∈ s, isBlank c = false) → ∀ u v : Text, (∀ c ∈ u, isBlank c = true) →
      (∀ c ∈ v, isBlank c = true) →
        classify settings (u ++ s ++ v) o = classify settings s (o + u.length)) ∧
    let t := classify settings s o
    StandsIn t s o ∧
      t.offset = o + (s.byteLength - Text.byteLength (s.dropWhile isBlank)) ∧
      classify settings t.text t.offset
        = if t.kind = .keyword ∧ t.text = remark then ⟨.comment, remark, t.offset⟩ else t := by
  obtain ⟨before, core, after, h⟩ := exists_framed isBlank s
  refine ⟨fun hs u v hu hv => ?_, standsIn_of_framed h, offset_classify settings s o,
    classify_text settings s o⟩
  rw [classify_of_framed (h.pad (h.core_ne_nil hs) hu hv), classify_of_framed h,
    List.length_append, Nat.add_assoc]

/-- The marker in lower case, between blanks, is a reserved word. -/
theorem classify_normalForm_rem :
    let s : Text := ['\t', 'r', 'e', 'm']
    (∃ c ∈ s, isBlank c = false) ∧ (∀ c ∈ [' '], isBlank c = true) ∧
      (∀ c ∈ ['\n'], isBlank c = true) ∧
      classify {} ([' '] ++ s ++ ['\n']) 5 = classify {} s 6 ∧
      classify {} s 6 = ⟨.keyword, remark, 7⟩ := by
  intro s
  have hs : ∃ c ∈ s, isBlank c = false := ⟨'r', by simp [s], rfl⟩
  have hu : ∀ c ∈ [' '], isBlank c = true := by simp [isBlank]
  have hv : ∀ c ∈ ['\n'], isBlank c = true := by simp [isBlank]
  exact ⟨hs, hu, hv, (classify_normalForm {} s 5).1 hs [' '] ['\n'] hu hv, by decide +kernel⟩

end Token

end BasicTokens
