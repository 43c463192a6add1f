import BasicTokens.Proofs.LineScan
import BasicTokens.Proofs.Reports

/-!
# Proofs/Policy — what the policy for open quotes changes

    rejected   front  "  back
    extended   front  "rest of the line

Every cut is a cut under the other policy too, unless it is what the policy made of an open quote
(`Cut.other_policy`).  A quote is open because none follows it on its line, so it is the only one
that the line rejects, and up to it the line is read the same (`Comparison`).  A run without a
diagnostic about a quote has no such lexeme and does not depend on the policy.
-/

namespace BasicTokens

open Character Grammar Text

/-- **The settings do not matter** to a text that both or neither take for a string, as long as they
agree on the marker. -/
theorem Token.ofTrimmed_eq_of_isString {settings settings' : Settings} {t : Text}
    (hcase : settings'.caseInsensitiveRemarks = settings.caseInsensitiveRemarks)
    (hstring : isString settings' t = isString settings t) (offset : Nat) :
    ofTrimmed settings' t offset = ofTrimmed settings t offset := by
  rw [ofTrimmed, ofTrimmed, hcase, hstring]

namespace Lexeme

/-- **What a policy makes of an open quote**: a stray quote, or a string that lacks its closing
quote. -/
def OfOpenQuote (category : Category) (text : Text) : Prop :=
  category = .stray ∧ text = ['"'] ∨ category = .string ∧ isStringLiteral text = false

/-- Whether a lexeme is a quote that stands by itself. -/
def isRejectedQuote (l : Lexeme) : Bool := l.category == .stray && l.text == ['"']

variable {settings settings' : Settings} {category : Category} {p : Position}
  {s t w rest : Text} {lexemes rejected extended : List Lexeme} {l : Lexeme} {ignoreCase : Bool}

theorem isRejectedQuote_iff : l.isRejectedQuote = true ↔ l.category = .stray ∧ l.text = ['"'] := by
  simp [isRejectedQuote]

/-! ## Cuts under the other policy -/

namespace Cut

/-- **A cut is one under the other policy too**, unless it is of an open quote. -/
theorem other_policy (h : Cut settings category s rest)
    (hcase : settings'.caseInsensitiveRemarks = settings.caseInsensitiveRemarks)
    (hquote : ¬ OfOpenQuote category s) : Cut settings' category s rest := by
  cases h with
  | comment marker inLine trimmed tail => exact .comment (hcase ▸ marker) inLine trimmed tail
  | closedString plain => exact .closedString plain
  | openString policy plain =>
    exact absurd (Or.inr ⟨rfl, isStringLiteral_open fun h => (plain _ h).1 rfl⟩) hquote
  | integer nonempty digits stop noFraction => exact .integer nonempty digits stop noFraction
  | decimal nonempty digits nonemptyFraction fractionDigits stop =>
    exact .decimal nonempty digits nonemptyFraction fractionDigits stop
  | word name noMarker stop => exact .word name (hcase ▸ noMarker) stop
  | relational pair => exact .relational pair
  | single symbol alone => exact .single symbol alone
  | rejectedQuote => exact absurd (Or.inl ⟨rfl, rfl⟩) hquote
  | stray notBlank notQuote notDigit notName notSymbol =>
    exact .stray notBlank notQuote notDigit notName notSymbol

/-- A cut counts as a string if it was cut for one, and only then. -/
theorem isString_iff (h : Cut settings category s rest) :
    Token.isString settings s = true ↔ category = .string := by
  constructor
  · intro hstring
    have hkind : (Token.ofTrimmed settings s 0).kind = .string := Token.kind_of_string hstring
    exact List.mem_singleton.mp (h.category_of_kind hkind)
  · rintro rfl
    exact h.isString

/-- What is cut under two settings is one token under both. -/
theorem token_eq (h : Cut settings category s rest) (h' : Cut settings' category s rest)
    (hcase : settings'.caseInsensitiveRemarks = settings.caseInsensitiveRemarks) (offset : Nat) :
    Token.ofTrimmed settings' s offset = Token.ofTrimmed settings s offset := by
  have hstring : Token.isString settings' s = Token.isString settings s :=
    Bool.eq_iff_iff.mpr (h'.isString_iff.trans h.isString_iff.symm)
  exact Token.ofTrimmed_eq_of_isString hcase hstring offset

/-- So it gives one diagnostic, or none, under both. -/
theorem diagnostic?_eq (h : Cut settings category s rest) (h' : Cut settings' category s rest)
    (hcase : settings'.caseInsensitiveRemarks = settings.caseInsensitiveRemarks) (p : Position) :
    (placed category s p).diagnostic? settings' = (placed category s p).diagnostic? settings := by
  rw [h.diagnostic?_placed, h'.diagnostic?_placed, h.token_eq h' hcase]

/-- **What was made of an open quote is reported as such.** -/
theorem diagnostic?_of_ofOpenQuote (h : Cut settings category s rest)
    (hquote : OfOpenQuote category s) (p : Position) :
    ∃ d, (placed category s p).diagnostic? settings = some d ∧
      d.code = some .unterminatedString := by
  have hblame : (Token.ofTrimmed settings s p.offset).isFaulty = true ∧
      ((Token.ofTrimmed settings s p.offset).kind = .string ∨
        (Token.ofTrimmed settings s p.offset).text = ['"']) := by
    rw [Token.isFaulty_iff]
    obtain ⟨rfl, rfl⟩ | ⟨rfl, hopen⟩ := hquote
    · have hkind : (Token.ofTrimmed settings ['"'] p.offset).kind = .unknown := h.gives p.offset
      exact ⟨Or.inl hkind, Or.inr (Token.text_eq_of_kind_ne (by simp [hkind]))⟩
    · have hkind : (Token.ofTrimmed settings s p.offset).kind = .string := h.gives p.offset
      rw [Token.text_eq_of_kind_ne (by simp [hkind])]
      exact ⟨Or.inr ⟨hkind, hopen⟩, Or.inl hkind⟩
  rw [h.diagnostic?_placed, if_pos hblame.1]
  refine ⟨_, rfl, ?_⟩
  rw [LexicalError.code_report, Token.code_fault, if_pos hblame.2]

/-- Where open quotes are rejected, what is made of one is the quote, and its line has no other. -/
theorem eq_quote_of_rejects (h : Cut settings category s rest) (hquote : OfOpenQuote category s)
    (hpolicy : settings.unterminatedStrings = .reject) :
    category = .stray ∧ s = ['"'] ∧ '"' ∉ rest.line := by
  obtain ⟨rfl, rfl⟩ | ⟨rfl, hopen⟩ := hquote
  · obtain ⟨-, -, hunclosed⟩ | ⟨c, hc, hne, -⟩ := h.stray_cases
    · exact ⟨rfl, rfl, hunclosed⟩
    · exact absurd (List.singleton_inj.mp hc).symm hne
  · obtain hclosed | ⟨-, hextends⟩ := h.string_cases
    · exact absurd hclosed (by simp [hopen])
    · exact absurd (hpolicy.symm.trans hextends) (by decide)

/-- No quote comes after a comment on its line. -/
theorem quote_not_mem_of_comment (h : Cut settings .comment s rest) : '"' ∉ rest.line := by
  cases h with
  | comment marker inLine trimmed tail => exact fun hmem => ne_quote_of_isBlank (tail _ hmem) rfl

end Cut

/-! ## A line under both policies -/

/-- **How the lexemes of a line compare**: they are the same if no quote is rejected.  Otherwise one
is, no comment stands before it, and the string that takes its place is the rest of the line without
the blanks at its end. -/
inductive Comparison (p : Position) (t : Text) : List Lexeme → List Lexeme → Prop
  | same {lexemes : List Lexeme} (none : ∀ l ∈ lexemes, l.isRejectedQuote = false) :
      Comparison p t lexemes lexemes
  | differ (u v : Text) (front back : List Lexeme) (line_eq : t = u ++ '"' :: v)
      (once : ∀ l ∈ front ++ back, l.isRejectedQuote = false)
      (noComment : ∀ l ∈ front, l.category ≠ .comment) :
      Comparison p t (front ++ placed .stray ['"'] (p.after u) :: back)
        (front ++ [placed .string (trimEnd isBlank ('"' :: v)) (p.after u)])

/-- **One more lexeme in front**, the same under both policies: a comment only if no quote comes
after it. -/
theorem Comparison.cons (h : Comparison (p.after w) t rejected extended)
    (hl : l.isRejectedQuote = false) (hcomment : '"' ∈ t → l.category ≠ .comment) :
    Comparison p (w ++ t) (l :: rejected) (l :: extended) := by
  cases h with
  | same none => exact .same (List.forall_mem_cons.mpr ⟨hl, none⟩)
  | differ u v front back line_eq once noComment =>
    have hquote : '"' ∈ t := by simp [line_eq]
    rw [← Position.after_append]
    refine .differ (w ++ u) v (l :: front) back ?_ (List.forall_mem_cons.mpr ⟨hl, once⟩)
      (List.forall_mem_cons.mpr ⟨hcomment hquote, noComment⟩)
    rw [line_eq, List.append_assoc]

/-- A text without quotes has no rejected ones. -/
theorem Scan.isRejectedQuote_eq_false (h : Scan settings p t lexemes) (ht : '"' ∉ t) :
    ∀ l ∈ lexemes, l.isRejectedQuote = false := by
  intro l hl
  obtain ⟨before, category, s, after, rfl, -, rfl⟩ := h.exists_cut_of_mem hl
  rw [Bool.eq_false_iff, ne_eq, isRejectedQuote_iff]
  rintro ⟨-, htext⟩
  obtain rfl : s = ['"'] := htext
  exact ht (by simp)

/-- **An open quote is extended** over the rest of a line. -/
theorem scan_openString (hpolicy : settings.unterminatedStrings = .extendToLineEnd)
    (hrest : ∀ c ∈ rest, c ≠ '"' ∧ isLineEnd c = false) (p : Position) :
    Scan settings p ('"' :: rest) [placed .string (trimEnd isBlank ('"' :: rest)) p] := by
  obtain ⟨inner, v, rfl, htrimmed, hv⟩ := exists_trimEnd isBlank rest
  rw [List.forall_mem_append] at hrest
  have hcut : Cut settings .string ('"' :: inner) v :=
    .openString hpolicy hrest.1 htrimmed fun c hc => hv c (mem_of_mem_line hc)
  have htrim : trimEnd isBlank ('"' :: (inner ++ v)) = '"' :: inner :=
    trimEnd_append (s := '"' :: inner) hcut.endsWith_isBlank hv
  rw [htrim]
  exact .cut (w := []) (by simp) hcut (.done hv)

/-- **The rest of a line under both policies.** -/
theorem Scan.compare (h : Scan ⟨.reject, ignoreCase⟩ p t rejected)
    (ht : ∀ c ∈ t, isLineEnd c = false) :
    ∃ extended, Scan ⟨.extendToLineEnd, ignoreCase⟩ p t extended ∧
      Comparison p t rejected extended := by
  induction h with
  | done blank => exact ⟨[], .done blank, .same (by simp)⟩
  | @cut p w s rest category rejected blank front more ih =>
    simp only [List.forall_mem_append] at ht
    obtain ⟨-, -, hrest⟩ := ht
    have hline := line_eq_self hrest
    by_cases hquote : OfOpenQuote category s
    · -- the string takes the rest of the line, and no quote is left in it to be rejected
      obtain ⟨rfl, rfl, hunclosed⟩ := front.eq_quote_of_rejects hquote rfl
      rw [hline] at hunclosed
      have hplain : ∀ c ∈ rest, c ≠ '"' ∧ isLineEnd c = false := fun c hc =>
        ⟨ne_of_mem_of_not_mem hc hunclosed, hrest c hc⟩
      refine ⟨_, (scan_openString rfl hplain (p.after w)).blank_append blank, ?_⟩
      exact .differ w rest [] rejected rfl (more.isRejectedQuote_eq_false hunclosed) (by simp)
    · obtain ⟨extended, hextended, hcompare⟩ := ih hrest
      refine ⟨_, .cut blank (front.other_policy rfl hquote) hextended, ?_⟩
      rw [← List.append_assoc]
      rw [← Position.after_append] at hcompare
      refine hcompare.cons ?_ fun hmem => ?_
      · exact Bool.eq_false_iff.mpr fun hl => hquote (Or.inl (isRejectedQuote_iff.mp hl))
      · -- a comment would have taken the quote
        rintro rfl
        exact front.quote_not_mem_of_comment (hline.symm ▸ hmem)

/-- **Every line of a source under both policies.** -/
theorem comparison_ofLine {before : Text} (hbefore : BeginsLine before) (rest : Text)
    (ignoreCase : Bool) :
    Comparison (Position.origin.after before) rest.line
      (ofLine ⟨.reject, ignoreCase⟩ before rest)
      (ofLine ⟨.extendToLineEnd, ignoreCase⟩ before rest) := by
  obtain ⟨extended, hscan, hcompare⟩ :=
    (scan_ofLine ⟨.reject, ignoreCase⟩ hbefore rest).compare fun c => not_isLineEnd_of_mem_line
  rwa [(scan_ofLine ⟨.extendToLineEnd, ignoreCase⟩ hbefore rest).unique hscan]

/-! ## A source under both policies -/

/-- A derivation whose cuts are cuts under other settings is one under these. -/
theorem Scan.of_cuts (h : Scan settings p t lexemes)
    (hcuts : ∀ category s rest q, placed category s q ∈ lexemes → Cut settings category s rest →
      Cut settings' category s rest) : Scan settings' p t lexemes := by
  induction h with
  | done blank => exact .done blank
  | cut blank front more ih =>
    exact .cut blank (hcuts _ _ _ _ List.mem_cons_self front)
      (ih fun category s rest q hmem => hcuts category s rest q (List.mem_cons_of_mem _ hmem))

end Lexeme

open Lexeme

variable {settings settings' : Settings} {source : Text}

/-- **A run without a diagnostic about a quote does not depend on the policy.** -/
theorem tokenizeCollecting_eq_of_forall
    (hcase : settings'.caseInsensitiveRemarks = settings.caseInsensitiveRemarks)
    (hnone : ∀ d ∈ (tokenizeCollecting settings source).2, d.code ≠ some .unterminatedString) :
    tokenizeCollecting settings' source = tokenizeCollecting settings source := by
  have hcuts : ∀ category s rest q, placed category s q ∈ ofSource settings source →
      Cut settings category s rest → Cut settings' category s rest := by
    intro category s rest q hmem hcut
    refine hcut.other_policy hcase fun hquote => ?_
    obtain ⟨d, hd, hcode⟩ := hcut.diagnostic?_of_ofOpenQuote hquote q
    refine hnone d ?_ hcode
    rw [tokenizeCollecting_eq]
    exact List.mem_filterMap.mpr ⟨_, hmem, hd⟩
  have hscan := scan_ofSource settings source
  have hboth : ∀ l ∈ ofSource settings source, l.token settings' = l.token settings ∧
      l.diagnostic? settings' = l.diagnostic? settings := by
    intro l hl
    obtain ⟨before, category, s, after, -, hcut, rfl⟩ := hscan.exists_cut_of_mem hl
    have hcut' := hcuts category s after _ hl hcut
    rw [hcut.token_placed, hcut'.token_placed]
    exact ⟨hcut.token_eq hcut' hcase _, hcut.diagnostic?_eq hcut' hcase _⟩
  rw [tokenizeCollecting_eq, tokenizeCollecting_eq, (hscan.of_cuts hcuts).ofSource_eq]
  exact Prod.ext (List.map_congr_left fun l hl => (hboth l hl).1)
    (List.filterMap_congr fun l hl => (hboth l hl).2)

/-- **No diagnostic about a quote is given under both policies**: where the quote is rejected it is
an error, where it is extended a warning. -/
theorem code_ne_of_mem_both (hreject : settings.unterminatedStrings = .reject)
    (hextend : settings'.unterminatedStrings = .extendToLineEnd) {d : Diagnostic}
    (hd : d ∈ (tokenizeCollecting settings source).2)
    (hd' : d ∈ (tokenizeCollecting settings' source).2) : d.code ≠ some .unterminatedString := by
  intro hcode
  rw [tokenizeCollecting_eq] at hd hd'
  obtain ⟨l, hl, hd⟩ := List.mem_filterMap.mp hd
  obtain ⟨l', hl', hd'⟩ := List.mem_filterMap.mp hd'
  have hnoWarning : d.level ≠ .warning := fun hlevel =>
    absurd (hreject.symm.trans ((policy_of_diagnostic? hl hd).1 hlevel)) (by decide)
  have hnoError : d.level ≠ .error := fun hlevel =>
    absurd (hextend.symm.trans ((policy_of_diagnostic? hl' hd').2 hlevel hcode)) (by decide)
  obtain ⟨hnone, -⟩ | ⟨d', hsome, -, hreported⟩ := diagnostic?_of_mem hl
  · simp [hnone] at hd
  · obtain rfl : d' = d := Option.some.inj (hsome.symm.trans hd)
    have hlevel := hreported.level_eq
    split at hlevel
    · exact hnoError hlevel
    · exact hnoWarning hlevel

/-- **What the policy for open quotes changes.**  Line by line, only what comes from an unmatched
quote on is read in another way (`Comparison`).  So two runs that differ in the policy alone are
equal if and only if one of them, and then the other, reports no open quote. -/
theorem tokenizeCollecting_policies (ignoreCase : Bool) (source : Text) :
    let reject : Settings := ⟨.reject, ignoreCase⟩
    let extend : Settings := ⟨.extendToLineEnd, ignoreCase⟩
    (∀ before rest, source = before ++ rest → BeginsLine before →
      Comparison (Position.origin.after before) rest.line (ofLine reject before rest)
        (ofLine extend before rest)) ∧
    (tokenizeCollecting reject source = tokenizeCollecting extend source ↔
      ∀ d ∈ (tokenizeCollecting reject source).2, d.code ≠ some .unterminatedString) ∧
    (tokenizeCollecting reject source = tokenizeCollecting extend source ↔
      ∀ d ∈ (tokenizeCollecting extend source).2, d.code ≠ some .unterminatedString) := by
  intro reject extend
  have hreject : reject.unterminatedStrings = .reject := rfl
  have hextend : extend.unterminatedStrings = .extendToLineEnd := rfl
  have hcase : extend.caseInsensitiveRemarks = reject.caseInsensitiveRemarks := rfl
  refine ⟨fun before rest _ hbefore => comparison_ofLine hbefore rest ignoreCase,
    ⟨fun heq d hd => ?_, fun hnone => ?_⟩, ⟨fun heq d hd => ?_, fun hnone => ?_⟩⟩
  · exact code_ne_of_mem_both hreject hextend hd (heq ▸ hd)
  · exact (tokenizeCollecting_eq_of_forall hcase hnone).symm
  · exact code_ne_of_mem_both hreject hextend (heq ▸ hd) hd
  · exact tokenizeCollecting_eq_of_forall hcase.symm hnone

/-- A quote on the second line is open, and the runs differ. -/
theorem tokenizeCollecting_policies_second_line :
    let before : Text := "X\n".toList
    let rest : Text := "\"A 1 \n2".toList
    BeginsLine before ∧
      Comparison (Position.origin.after before) rest.line (ofLine ⟨.reject, true⟩ before rest)
        (ofLine ⟨.extendToLineEnd, true⟩ before rest) ∧
      tokenizeCollecting ⟨.reject, true⟩ (before ++ rest)
        ≠ tokenizeCollecting ⟨.extendToLineEnd, true⟩ (before ++ rest) := by
  intro before rest
  have hbefore : BeginsLine before := Or.inr (by decide)
  obtain ⟨hlines, hruns, -⟩ := tokenizeCollecting_policies true (before ++ rest)
  refine ⟨hbefore, hlines before rest rfl hbefore, fun heq => ?_⟩
  have hsome : ∃ d ∈ (tokenizeCollecting ⟨.reject, true⟩ (before ++ rest)).2,
      d.code = some .unterminatedString := by decide +kernel
  obtain ⟨d, hd, hcode⟩ := hsome
  exact hruns.mp heq d hd hcode

end BasicTokens
