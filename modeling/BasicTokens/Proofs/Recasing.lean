import BasicTokens.Proofs.Agreement
import BasicTokens.Proofs.UpperCase

/-!
# Proofs/Recasing — letters may change their case

    source  ──cut──▸  lexemes  ──classify──▸  tokens  ──blame──▸  reports
      ↓ upper case      ↓                       ↓                   ↓
    SOURCE  ──cut──▸  LEXEMES  ──classify──▸  TOKENS  ──blame──▸  reports

Where the comment marker counts in any case, every stage commutes with putting letters in upper case
(`Scan.upperCase`, `Token.classify_toUpper`, `Token.problem?_upperCase`).  Two sources that differ
in the case of letters are the same source in upper case, so what is read from them differs in no
more.
-/

namespace BasicTokens

open Character Grammar Text

variable {settings : Settings}

/-! ## Classification -/

/-- The same error about a text in upper case. -/
def LexicalError.upperCase (e : LexicalError) : LexicalError :=
  match e with
  | unrecognizedCharacter text offset => unrecognizedCharacter text.toUpper offset
  | unterminatedString text offset recovered => unterminatedString text.toUpper offset recovered
  | malformedNumber text offset => malformedNumber text.toUpper offset
  | unknownToken text offset => unknownToken text.toUpper offset

namespace Token

variable {t : Text} {offset : Nat}

/-- The same token with its text in upper case. -/
def upperCase (t : Token) : Token := { t with text := t.text.toUpper }

theorem ofTrimmed_toUpper (hcase : settings.caseInsensitiveRemarks = true) :
    ofTrimmed settings t.toUpper offset = (ofTrimmed settings t offset).upperCase := by
  have hstring : isString settings t.toUpper = isString settings t := by
    rw [isString, isString, isStringLiteral_toUpper, isOpenString_toUpper]
  rw [ofTrimmed, ofTrimmed, hcase, startsRemark_toUpper, hstring, isNumber_toUpper,
    keyword?_toUpper, isIdentifier_toUpper, isOperator_toUpper, isDelimiter_toUpper]
  simp only [apply_ite upperCase]
  rcases hk : keyword? t with _ | k
  · simp only [apply_ite upperCase]
    rfl
  · -- a reserved word is in upper case already
    have hupper : Text.toUpper k = k := by rw [eq_toUpper_of_keyword? hk, toUpper_toUpper]
    simp only [upperCase, hupper]

/-- **The classifier does not look at the case of letters.** -/
theorem classify_toUpper (hcase : settings.caseInsensitiveRemarks = true) :
    classify settings t.toUpper offset = (classify settings t offset).upperCase := by
  rw [classify_eq, classify_eq, trim_toUpper isBlank_toUpper, takeWhile_toUpper isBlank_toUpper,
    length_toUpper, ofTrimmed_toUpper hcase]

theorem unknownCause_toUpper :
    unknownCause t.toUpper offset = (unknownCause t offset).upperCase := by
  have hquote : ∀ c : Char, c.toUpper = '"' ↔ c = '"' := fun c => toUpper_eq_iff rfl
  have hpoint : ∀ c : Char, (c.toUpper == '.') = (c == '.') := beq_toUpper rfl
  match t with
  | [] => rfl
  | [c] =>
    simp only [toUpper_cons, toUpper_nil, unknownCause, hquote, isDigit_toUpper,
      apply_ite LexicalError.upperCase]
    rfl
  | c :: d :: u =>
    simp only [toUpper_cons, unknownCause, hquote, isDigit_toUpper, hpoint,
      apply_ite LexicalError.upperCase]
    rfl

/-- **Nor does what is wrong with a token depend on it.** -/
theorem problem?_upperCase (t : Token) :
    t.upperCase.problem? = t.problem?.map LexicalError.upperCase := by
  obtain ⟨kind, text, offset⟩ := t
  cases kind with
  | unknown => exact congrArg some unknownCause_toUpper
  | string =>
    simp only [problem?, upperCase, isStringLiteral_toUpper]
    split <;> rfl
  | _ => rfl

/-- **The same token but for the case of letters**; a reserved word is the very same. -/
structure Recased (t u : Token) : Prop where
  kind_eq : t.kind = u.kind
  offset_eq : t.offset = u.offset
  text_eq : if t.kind = .keyword then t.text = u.text else t.text.equalsIgnoringCase u.text = true

/-- A reserved word is handed out in upper case. -/
theorem toUpper_text_of_keyword (h : (classify settings t offset).kind = .keyword) :
    (classify settings t offset).text.toUpper = (classify settings t offset).text := by
  have htext := (text_ofTrimmed settings (t.trim isBlank)
    (offset + (t.takeWhile isBlank).length)).2
  rw [← classify_eq, if_pos h] at htext
  rw [htext.1, toUpper_toUpper]

end Token

/-- **The same report but for the case of letters in the text at fault.** -/
structure Diagnostic.Recased (d e : Diagnostic) : Prop where
  level_eq : d.level = e.level
  code_eq : d.code = e.code
  span_eq : d.span = e.span

/-- Level and code of an error do not show the case of letters. -/
theorem LexicalError.report_recased {e f : LexicalError} (h : e.upperCase = f.upperCase) (span : Span) :
    (e.report span).Recased (f.report span) := by
  have hlevel : ∀ e : LexicalError, e.upperCase.level = e.level := fun e => by cases e <;> rfl
  have hcode : ∀ e : LexicalError, e.upperCase.code = e.code := fun e => by cases e <;> rfl
  have hlevels : e.level = f.level := by rw [← hlevel, h, hlevel]
  have hcodes : e.code = f.code := by rw [← hcode, h, hcode]
  exact ⟨by simp [hlevels], by simp [hcodes], by simp⟩

/-! ## Cuts -/

theorem Position.after_toUpper (p : Position) (t : Text) : p.after t.toUpper = p.after t := by
  induction t generalizing p with
  | nil => rfl
  | cons c t ih =>
    have hfeed : c.toUpper = '\n' ↔ c = '\n' := toUpper_eq_iff rfl
    have hstep : p.step c.toUpper = p.step c := by
      simp only [step, hfeed, utf8Size_toUpper]
    rw [toUpper_cons, after_cons, after_cons, hstep, ih]

namespace Lexeme

variable {category : Category} {p : Position} {s t rest : Text} {lexemes : List Lexeme}
  {l m : Lexeme}

theorem fraction_toUpper (t : Text) : Matcher.fraction t.toUpper = (Matcher.fraction t).toUpper := by
  rcases hpoint : beginsWith (· == '.') t
  · have hupper := (beginsWith_toUpper (beq_toUpper rfl) t).trans hpoint
    rw [fraction_eq_nil hpoint, fraction_eq_nil hupper, toUpper_nil]
  · obtain ⟨c, u, rfl, hc⟩ := exists_cons_of_beginsWith hpoint
    obtain rfl : c = '.' := by simpa using hc
    exact takeWhile_toUpper isDigit_toUpper u

/-- Only a character that is no letter completes a relation. -/
theorem contains_pairs_toUpper (c d : Char) :
    pairs.contains [c, d.toUpper] = pairs.contains [c, d] := by
  refine apply_toUpper (f := fun d => pairs.contains [c, d]) false (fun d hd => ?_) d
  rw [Bool.eq_false_iff]
  intro hp
  obtain ⟨c', d', heq, -, hsymbol⟩ := exists_of_mem_pairs (by simpa using hp)
  obtain ⟨-, rfl⟩ : c = c' ∧ d = d' := by simpa using heq
  exact absurd hd (by simp [not_of_mem_symbols (p := Char.isAlpha) (by decide) hsymbol])

/-- **A cut is a cut in upper case**, where the marker counts in any case. -/
theorem Cut.upperCase (h : Cut settings category s rest)
    (hcase : settings.caseInsensitiveRemarks = true) :
    Cut settings category s.toUpper rest.toUpper := by
  have hinLine : ∀ {t : Text}, (∀ c ∈ t, isLineEnd c = false) →
      ∀ c ∈ t.toUpper, isLineEnd c = false :=
    forall_mem_toUpper fun c hc => by rwa [isLineEnd_toUpper]
  have hplain : ∀ {t : Text}, (∀ c ∈ t, c ≠ '"' ∧ isLineEnd c = false) →
      ∀ c ∈ t.toUpper, c ≠ '"' ∧ isLineEnd c = false :=
    forall_mem_toUpper fun c hc => by rwa [ne_eq, toUpper_eq_iff rfl, isLineEnd_toUpper]
  have hdigits : ∀ {t : Text}, (∀ c ∈ t, c.isDigit = true) → ∀ c ∈ t.toUpper, c.isDigit = true :=
    forall_mem_toUpper fun c hc => by rwa [isDigit_toUpper]
  have htrimmed : ∀ {t : Text}, endsWith isBlank t = false → endsWith isBlank t.toUpper = false :=
    fun ht => (endsWith_toUpper isBlank_toUpper _).trans ht
  have htail : (∀ c ∈ rest.line, isBlank c = true) → ∀ c ∈ rest.toUpper.line, isBlank c = true := by
    rw [line_toUpper]
    exact forall_mem_toUpper fun c hc => by rwa [isBlank_toUpper]
  have hstop : beginsWith Char.isDigit rest = false →
      beginsWith Char.isDigit rest.toUpper = false :=
    fun hrest => (beginsWith_toUpper isDigit_toUpper _).trans hrest
  cases h with
  | comment marker inLine trimmed tail =>
    rw [hcase] at marker
    exact .comment (by rwa [hcase, startsRemark_toUpper]) (hinLine inLine) (htrimmed trimmed)
      (htail tail)
  | @closedString inner _ plain =>
    have hupper : Text.toUpper ('"' :: (inner ++ ['"'])) = '"' :: (inner.toUpper ++ ['"']) := by
      rw [toUpper_cons, toUpper_append]
      rfl
    rw [hupper]
    exact .closedString (hplain plain)
  | openString policy plain trimmed tail =>
    exact .openString policy (hplain plain) (htrimmed trimmed) (htail tail)
  | integer nonempty digits stop noFraction =>
    refine .integer (toUpper_ne_nil nonempty) (hdigits digits) (hstop stop) ?_
    rw [fraction_toUpper, noFraction, toUpper_nil]
  | @decimal s u _ nonempty digits nonemptyFraction fractionDigits stop =>
    rw [toUpper_append]
    exact .decimal (toUpper_ne_nil nonempty) (hdigits digits) (toUpper_ne_nil nonemptyFraction)
      (hdigits fractionDigits) (hstop stop)
  | word name noMarker stop =>
    rw [hcase] at noMarker
    exact .word (by rwa [isIdentifier_toUpper]) (by rwa [hcase, startsRemark_toUpper])
      ((beginsWith_toUpper isNamePart_toUpper _).trans stop)
  | relational pair =>
    have hupper : ∀ s ∈ pairs, Text.toUpper s = s := by decide
    rw [hupper s pair]
    exact .relational pair
  | @single c _ symbol alone =>
    have hupper : c.toUpper = c :=
      toUpper_eq_of_isNameStart (not_of_mem_symbols (by decide) symbol)
    rw [toUpper_cons, toUpper_nil, hupper]
    exact .single symbol ((beginsWith_toUpper (contains_pairs_toUpper c) _).trans alone)
  | rejectedQuote policy unclosed =>
    refine .rejectedQuote policy fun hmem => unclosed ?_
    rw [line_toUpper] at hmem
    obtain ⟨c, hc, hquote⟩ := List.mem_map.mp hmem
    obtain rfl : c = '"' := (toUpper_eq_iff rfl).mp hquote
    exact hc
  | @stray c _ notBlank notQuote notDigit notName notSymbol =>
    rw [toUpper_cons, toUpper_nil, toUpper_eq_of_isNameStart notName]
    exact .stray notBlank notQuote notDigit notName notSymbol

/-- The same lexeme with its text in upper case. -/
def upperCase (l : Lexeme) : Lexeme := { l with text := l.text.toUpper }

theorem placed_toUpper (category : Category) (s : Text) (p : Position) :
    (placed category s p).upperCase = placed category s.toUpper p := by
  simp only [placed, upperCase, byteLength_toUpper]

/-- **A text is read the same in upper case.** -/
theorem Scan.upperCase (h : Scan settings p t lexemes)
    (hcase : settings.caseInsensitiveRemarks = true) :
    Scan settings p t.toUpper (lexemes.map Lexeme.upperCase) := by
  have hblank : ∀ {w : Text}, (∀ c ∈ w, isBlank c = true) → ∀ c ∈ w.toUpper, isBlank c = true :=
    forall_mem_toUpper fun c hc => by rwa [isBlank_toUpper]
  induction h with
  | done blank => exact .done (hblank blank)
  | @cut p w s rest category lexemes blank front more ih =>
    rw [toUpper_append, toUpper_append, List.map_cons, placed_toUpper, ← Position.after_toUpper p w]
    refine .cut (hblank blank) (front.upperCase hcase) ?_
    rwa [Position.after_toUpper, Position.after_toUpper]

theorem ofSource_toUpper (hcase : settings.caseInsensitiveRemarks = true) (source : Text) :
    ofSource settings source.toUpper = (ofSource settings source).map upperCase :=
  ((scan_ofSource settings source).upperCase hcase).ofSource_eq

/-! ## Lexemes that are the same in upper case -/

theorem token_upperCase (hcase : settings.caseInsensitiveRemarks = true) (l : Lexeme) :
    l.upperCase.token settings = (l.token settings).upperCase :=
  Token.classify_toUpper hcase

theorem token_recased (hcase : settings.caseInsensitiveRemarks = true)
    (h : l.upperCase = m.upperCase) : (l.token settings).Recased (m.token settings) := by
  have htoken : (l.token settings).upperCase = (m.token settings).upperCase := by
    rw [← token_upperCase hcase, h, token_upperCase hcase]
  obtain ⟨hkind, htext, hoffset⟩ := Token.mk.inj htoken
  refine ⟨hkind, hoffset, ?_⟩
  split
  · rename_i hl
    have hm := hkind.symm.trans hl
    rwa [token, Token.toUpper_text_of_keyword hl, token, Token.toUpper_text_of_keyword hm] at htext
  · rw [equalsIgnoringCase, htext, beq_self_eq_true]

theorem diagnostic?_recased (hcase : settings.caseInsensitiveRemarks = true)
    (h : l.upperCase = m.upperCase) :
    Option.Rel Diagnostic.Recased (l.diagnostic? settings) (m.diagnostic? settings) := by
  have hproblem : (l.token settings).problem?.map LexicalError.upperCase
      = (m.token settings).problem?.map LexicalError.upperCase := by
    rw [← Token.problem?_upperCase, ← Token.problem?_upperCase, ← token_upperCase hcase,
      h, token_upperCase hcase]
  obtain ⟨-, -, -, hspan⟩ := Lexeme.mk.inj h
  rw [diagnostic?, diagnostic?, hspan]
  rcases hl : (l.token settings).problem? with _ | e <;>
    rcases hm : (m.token settings).problem? with _ | f <;> rw [hl, hm] at hproblem
  · exact .none
  · simp at hproblem
  · simp at hproblem
  · exact .some (LexicalError.report_recased (Option.some.inj hproblem) m.span)

end Lexeme

open Lexeme

/-- **The language does not look at the case of letters**, where the comment marker counts in any
case: sources that differ in no more give tokens and reports that differ in no more. -/
theorem tokenizeCollecting_recased (hcase : settings.caseInsensitiveRemarks = true)
    {source source' : Text} (h : List.Forall₂ (fun c d => c.toUpper = d.toUpper) source source') :
    let run := tokenizeCollecting settings source
    let run' := tokenizeCollecting settings source'
    List.Forall₂ Token.Recased run.1 run'.1 ∧ List.Forall₂ Diagnostic.Recased run.2 run'.2 := by
  have hsource : source.toUpper = source'.toUpper := by
    rwa [← List.forall₂_eq_eq_eq, Text.toUpper, Text.toUpper, List.forall₂_map_left_iff,
      List.forall₂_map_right_iff]
  have hlexemes : List.Forall₂ (fun l m => l.upperCase = m.upperCase) (ofSource settings source)
      (ofSource settings source') := by
    rw [← List.forall₂_map_right_iff, ← List.forall₂_map_left_iff, List.forall₂_eq_eq_eq,
      ← ofSource_toUpper hcase, ← ofSource_toUpper hcase, hsource]
  simp only [tokenizeCollecting_eq]
  constructor
  · rw [List.forall₂_map_left_iff, List.forall₂_map_right_iff]
    exact hlexemes.imp fun l m => token_recased hcase
  · refine List.rel_filterMap ?_ hlexemes
    intro l m hlm
    exact diagnostic?_recased hcase hlm

/-- A reserved word, a letter that is no ASCII letter, and an open string. -/
theorem tokenizeCollecting_recased_open_string :
    let settings : Settings := ⟨.extendToLineEnd, true⟩
    let source : Text := "Let é = \"Xé".toList
    let source' : Text := "lET é = \"xé".toList
    settings.caseInsensitiveRemarks = true ∧
      List.Forall₂ (fun c d => c.toUpper = d.toUpper) source source' ∧
      List.Forall₂ Token.Recased (tokenizeCollecting settings source).1
        (tokenizeCollecting settings source').1 ∧
      List.Forall₂ Diagnostic.Recased (tokenizeCollecting settings source).2
        (tokenizeCollecting settings source').2 ∧
      (tokenizeCollecting settings source').1 = [⟨.keyword, "LET".toList, 0⟩,
        ⟨.unknown, ['é'], 4⟩, ⟨.operator, ['='], 6⟩, ⟨.string, "\"xé".toList, 8⟩] := by
  intro settings source source'
  have hsame : List.Forall₂ (fun c d : Char => c.toUpper = d.toUpper) source source' := by
    decide +kernel
  have hrecased := @tokenizeCollecting_recased settings rfl _ _ hsame
  exact ⟨rfl, hsame, hrecased.1, hrecased.2, by decide +kernel⟩

end BasicTokens
