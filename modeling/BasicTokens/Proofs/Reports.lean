import BasicTokens.Proofs.Agreement
import BasicTokens.Proofs.Tiling

/-!
# Proofs/Reports — what a run reports, token by token

Of the tokens of a source, only a stray character and an open string are faulty, and the stray one
is never a digit, so two of the four causes are left (`Token.problem?_eq`).  A run reports each
faulty token once and in order, at the text that the token has in the source
(`tokenizeCollecting_reports`); which of the two an open quote becomes is up to the policy
(`Cut.extends_of_open`, `Cut.rejects_of_quote`).
-/

namespace BasicTokens

open Character Grammar Text

/-! ## Faulty tokens -/

namespace Token

/-- Whether something is wrong with a token: it is unknown, or a string that lacks its closing
quote. -/
def isFaulty (t : Token) : Bool := t.isUnknown || (t.kind == .string && !isStringLiteral t.text)

/-- The error of a faulty token, as far as tokens are cut from a source. -/
def fault (t : Token) : LexicalError :=
  if t.kind = .string then .unterminatedString t.text t.offset true
  else if t.text = ['"'] then .unterminatedString t.text t.offset false
  else .unrecognizedCharacter t.text t.offset

variable {settings : Settings} {t : Token} {s : Text} {offset : Nat}

theorem isFaulty_iff :
    t.isFaulty = true ↔ t.kind = .unknown ∨ t.kind = .string ∧ isStringLiteral t.text = false := by
  simp [isFaulty, isUnknown]

/-- **Two causes are left** where an unknown token is a single character other than a digit. -/
theorem problem?_eq (h : t.kind = .unknown → ∃ c, t.text = [c] ∧ c.isDigit = false) :
    t.problem? = if t.isFaulty then some t.fault else none := by
  obtain ⟨kind, text, offset⟩ := t
  cases kind with
  | unknown =>
    obtain ⟨c, rfl, hdigit⟩ := h rfl
    simp [problem?, unknownCause, isFaulty, isUnknown, fault, hdigit, apply_ite]
  | string => cases hs : isStringLiteral text <;> simp [problem?, isFaulty, isUnknown, fault, hs]
  | _ => rfl

/-- The code of a fault tells whether a quote is to blame. -/
theorem code_fault (t : Token) :
    t.fault.code = if t.kind = .string ∨ t.text = ['"'] then .unterminatedString
      else .unexpectedCharacter := by
  unfold fault
  split_ifs <;> simp_all [LexicalError.code]

theorem subject_fault (t : Token) :
    t.fault.subject = if t.kind = .string ∨ t.text = ['"'] then "unterminated string literal ".toList
      else "unrecognized character ".toList := by
  unfold fault
  by_cases hstring : t.kind = .string
  · rw [if_pos hstring, if_pos (Or.inl hstring)]
    rfl
  · by_cases hquote : t.text = ['"']
    · rw [if_neg hstring, if_pos hquote, if_pos (Or.inr hquote)]
      rfl
    · rw [if_neg hstring, if_neg hquote, if_neg (not_or.mpr ⟨hstring, hquote⟩)]
      rfl

/-- A fault is about the text of its token, where it stands. -/
theorem text_fault (t : Token) : t.fault.text = t.text ∧ t.fault.offset = t.offset := by
  unfold fault
  split_ifs <;> exact ⟨rfl, rfl⟩

/-- A faulty token is no reserved word, so its text is the one it was made of. -/
theorem text_of_isFaulty (h : (ofTrimmed settings s offset).isFaulty = true) :
    (ofTrimmed settings s offset).text = s := by
  refine text_eq_of_kind_ne fun hkeyword => ?_
  simp [isFaulty_iff, hkeyword] at h

end Token

/-- The categories from which a kind of token can come. -/
def Token.Kind.categories : Token.Kind → List Lexeme.Category
  | .keyword | .identifier => [.word]
  | .number => [.number]
  | .string => [.string]
  | .operator => [.relational, .single]
  | .delimiter => [.single]
  | .comment => [.comment]
  | .unknown => [.stray]

namespace Lexeme

variable {settings : Settings} {category : Category} {s rest : Text} {p : Position}
  {kind : Token.Kind}

/-- The kind of a token tells the category it came from, but for the symbols. -/
theorem Category.mem_categories_of_gives {text : Text} (h : category.Gives text kind) :
    category ∈ kind.categories := by
  cases category with
  | word =>
    obtain rfl := h
    split <;> exact List.mem_singleton_self _
  | single => obtain rfl | rfl := h <;> simp [Token.Kind.categories]
  | _ =>
    obtain rfl := h
    simp [Token.Kind.categories]

namespace Cut

theorem mem_categories (h : Cut settings category s rest) (offset : Nat) :
    category ∈ (Token.ofTrimmed settings s offset).kind.categories :=
  Category.mem_categories_of_gives (h.gives offset)

/-- A stray character is a rejected quote, or neither a quote nor a digit. -/
theorem stray_cases (h : Cut settings .stray s rest) :
    (s = ['"'] ∧ settings.unterminatedStrings = .reject ∧ '"' ∉ rest.line) ∨
      ∃ c, s = [c] ∧ c ≠ '"' ∧ c.isDigit = false := by
  cases h with
  | rejectedQuote policy unclosed => exact Or.inl ⟨rfl, policy, unclosed⟩
  | stray _ notQuote notDigit => exact Or.inr ⟨_, rfl, notQuote, notDigit⟩

/-- A string has its closing quote, or it is the rest of a line where the policy says so. -/
theorem string_cases (h : Cut settings .string s rest) :
    isStringLiteral s = true ∨
      isStringLiteral s = false ∧ settings.unterminatedStrings = .extendToLineEnd := by
  cases h with
  | closedString plain => exact Or.inl (isStringLiteral_closed fun h => (plain _ h).1 rfl)
  | openString policy plain =>
    exact Or.inr ⟨isStringLiteral_open fun h => (plain _ h).1 rfl, policy⟩

theorem category_of_kind (h : Cut settings category s rest) {offset : Nat}
    (hkind : (Token.ofTrimmed settings s offset).kind = kind) : category ∈ kind.categories :=
  hkind ▸ h.mem_categories offset

/-- **What is reported about a cut.** -/
theorem diagnostic?_placed [CharacterData] (h : Cut settings category s rest) (p : Position) :
    (placed category s p).diagnostic? settings
      = if (Token.ofTrimmed settings s p.offset).isFaulty then
          some ((Token.ofTrimmed settings s p.offset).fault.report (placed category s p).span)
        else none := by
  rw [diagnostic?, h.token_placed, Token.problem?_eq]
  · split <;> rfl
  intro hkind
  obtain rfl : category = .stray := List.mem_singleton.mp (h.category_of_kind hkind)
  have htext : (Token.ofTrimmed settings s p.offset).text = s :=
    Token.text_of_isFaulty (Token.isFaulty_iff.mpr (Or.inl hkind))
  rw [htext]
  obtain ⟨rfl, -, -⟩ | ⟨c, rfl, -, hdigit⟩ := h.stray_cases
  · exact ⟨'"', rfl, rfl⟩
  · exact ⟨c, rfl, hdigit⟩

/-- An open string is a token only where the policy extends it. -/
theorem extends_of_open (h : Cut settings category s rest) {offset : Nat}
    (hkind : (Token.ofTrimmed settings s offset).kind = .string)
    (hopen : isStringLiteral s = false) : settings.unterminatedStrings = .extendToLineEnd := by
  obtain rfl : category = .string := List.mem_singleton.mp (h.category_of_kind hkind)
  obtain hclosed | ⟨-, policy⟩ := h.string_cases
  · exact absurd hclosed (by simp [hopen])
  · exact policy

/-- A quote is unknown only where the policy rejects it. -/
theorem rejects_of_quote (h : Cut settings category ['"'] rest) {offset : Nat}
    (hkind : (Token.ofTrimmed settings ['"'] offset).kind = .unknown) :
    settings.unterminatedStrings = .reject := by
  obtain rfl : category = .stray := List.mem_singleton.mp (h.category_of_kind hkind)
  obtain ⟨-, policy, -⟩ | ⟨c, hc, hquote, -⟩ := h.stray_cases
  · exact policy
  · exact absurd (List.singleton_inj.mp hc).symm hquote

end Cut

end Lexeme

/-! ## The reports of a run -/

/-- **What a report says about a token**: it points at the token's text in the source, its message
is that of an error with the token's text and offset, only an unknown token is an error, and the
code tells whether a quote is at fault. -/
structure Token.Reported [CharacterData] (source : Text) (t : Token) (d : Diagnostic) : Prop where
  selected : d.span.select? source = some t.text
  report_eq : ∃ error : LexicalError,
    error.text = t.text ∧ error.offset = t.offset ∧ d = error.report d.span
  message_eq : d.message = (if t.kind = .string ∨ t.text = ['"'] then
      "unterminated string literal ".toList else "unrecognized character ".toList)
    ++ t.text.quoted ++ " at position ".toList ++ decimal t.offset
  level_eq : d.level = if t.isUnknown then .error else .warning
  code_eq : d.code = some (if t.kind = .string ∨ t.text = ['"'] then .unterminatedString
    else .unexpectedCharacter)

/-- The report of a token's fault, placed at the token's text. -/
theorem Token.reported_fault [CharacterData] {source : Text} {t : Token} {span : Span}
    (h : t.isFaulty = true) (hselect : span.select? source = some t.text) :
    t.Reported source (t.fault.report span) := by
  obtain ⟨htext, hoffset⟩ := t.text_fault
  refine ⟨by rw [LexicalError.span_report, hselect],
    ⟨t.fault, htext, hoffset, by rw [LexicalError.span_report]⟩, ?_, ?_, ?_⟩
  · rw [LexicalError.message_report, LexicalError.message, subject_fault, htext, hoffset]
  · rw [LexicalError.level_report]
    obtain hkind | ⟨hkind, -⟩ := isFaulty_iff.mp h
    · simp only [fault, isUnknown, hkind, reduceCtorEq, if_false, beq_self_eq_true, if_true]
      split <;> rfl
    · simp only [fault, isUnknown, hkind]
      rfl
  · rw [LexicalError.code_report, code_fault]

namespace Lexeme

variable [CharacterData] {settings : Settings} {source : Text} {l : Lexeme} {lexemes : List Lexeme}

/-- A lexeme of a source is reported if its token is faulty, and only then. -/
theorem diagnostic?_of_mem (hl : l ∈ ofSource settings source) :
    (l.diagnostic? settings = none ∧ (l.token settings).isFaulty = false) ∨
      ∃ d, l.diagnostic? settings = some d ∧ (l.token settings).isFaulty = true ∧
        (l.token settings).Reported source d := by
  obtain ⟨before, category, s, after, rfl, hcut, rfl⟩ :=
    (scan_ofSource settings source).exists_cut_of_mem hl
  rw [hcut.diagnostic?_placed, hcut.token_placed]
  cases hfaulty : (Token.ofTrimmed settings s (Position.origin.after before).offset).isFaulty with
  | false => exact Or.inl ⟨rfl, rfl⟩
  | true =>
    refine Or.inr ⟨_, rfl, rfl, Token.reported_fault hfaulty ?_⟩
    rw [Token.text_of_isFaulty hfaulty]
    exact (standsAfter_placed category before s after).selected

/-- A lexeme of a source is reported if and only if its token is faulty. -/
theorem isSome_diagnostic? (hl : l ∈ ofSource settings source) :
    (l.diagnostic? settings).isSome = (l.token settings).isFaulty := by
  obtain ⟨hnone, hfaulty⟩ | ⟨d, hd, hfaulty, -⟩ := diagnostic?_of_mem hl
  · rw [hnone, hfaulty, Option.isSome_none]
  · rw [hd, hfaulty, Option.isSome_some]

/-- What is reported about a lexeme is about its token, and the token is faulty. -/
theorem reported_of_diagnostic? (hl : l ∈ ofSource settings source) {d : Diagnostic}
    (hd : l.diagnostic? settings = some d) :
    (l.token settings).isFaulty = true ∧ (l.token settings).Reported source d := by
  obtain ⟨hnone, -⟩ | ⟨d', hd', hfaulty, hreported⟩ := diagnostic?_of_mem hl
  · simp [hnone] at hd
  · obtain rfl : d' = d := Option.some.inj (hd'.symm.trans hd)
    exact ⟨hfaulty, hreported⟩

/-- The report is an error if and only if the token is unknown. -/
theorem isError_of_diagnostic? (hl : l ∈ ofSource settings source) {d : Diagnostic}
    (hd : l.diagnostic? settings = some d) : d.isError = (l.token settings).isUnknown := by
  rw [Diagnostic.isError, (reported_of_diagnostic? hl hd).2.level_eq]
  cases (l.token settings).isUnknown <;> rfl

/-- What is reported about tokens that are not unknown is no error. -/
theorem isError_eq_false_of_clean (hmem : ∀ l ∈ lexemes, l ∈ ofSource settings source)
    (hclean : ∀ l ∈ lexemes, (l.token settings).isUnknown = false) :
    ∀ l ∈ lexemes, ∀ d ∈ l.diagnostic? settings, d.isError = false := fun l hl d hd => by
  rw [isError_of_diagnostic? (hmem l hl) hd, hclean l hl]

theorem exists_diagnostic?_of_isUnknown (hl : l ∈ ofSource settings source)
    (h : (l.token settings).isUnknown = true) : ∃ d, l.diagnostic? settings = some d := by
  refine Option.isSome_iff_exists.mp ((isSome_diagnostic? hl).trans ?_)
  rw [Token.isFaulty, h, Bool.true_or]

/-- There are as many reports as faulty tokens. -/
theorem countP_isFaulty (h : ∀ l ∈ lexemes, l ∈ ofSource settings source) :
    (lexemes.map (·.token settings)).countP Token.isFaulty
      = (lexemes.filterMap (·.diagnostic? settings)).length := by
  rw [List.countP_map, List.length_filterMap_eq_countP]
  refine List.countP_congr fun l hl => ?_
  rw [isSome_diagnostic? (h l hl), Function.comp_apply]

/-- What a report tells about the policy: a warning is about a string that was extended, and an
error about a quote of one that was rejected. -/
theorem policy_of_diagnostic? (hl : l ∈ ofSource settings source) {d : Diagnostic}
    (hd : l.diagnostic? settings = some d) :
    (d.level = .warning → settings.unterminatedStrings = .extendToLineEnd) ∧
      (d.level = .error → d.code = some .unterminatedString →
        settings.unterminatedStrings = .reject) := by
  obtain ⟨hfaulty, hreported⟩ := reported_of_diagnostic? hl hd
  obtain ⟨before, category, s, after, rfl, hcut, rfl⟩ :=
    (scan_ofSource settings source).exists_cut_of_mem hl
  rw [hcut.token_placed] at hfaulty hreported
  have htext := Token.text_of_isFaulty hfaulty
  have hlevel := hreported.level_eq
  have hcode := hreported.code_eq
  obtain hunknown | ⟨hstring, hopen⟩ := Token.isFaulty_iff.mp hfaulty
  · simp only [Token.isUnknown, hunknown, beq_self_eq_true, if_true] at hlevel
    refine ⟨fun hwarning => absurd (hlevel.symm.trans hwarning) (by simp), fun _ hquote => ?_⟩
    have hs : s = ['"'] := by
      by_contra hne
      rw [hcode, if_neg (by simp [hunknown, htext, hne])] at hquote
      exact absurd hquote (by decide)
    subst hs
    exact hcut.rejects_of_quote hunknown
  · rw [htext] at hopen
    refine ⟨fun _ => hcut.extends_of_open hstring hopen, fun herror => ?_⟩
    simp [Token.isUnknown, hstring] at hlevel
    simp [hlevel] at herror

end Lexeme

open Lexeme

/-- **Each faulty token is reported once, in order and exactly**, and no other token is.  So there
are no malformed numbers and no unknown texts of several characters, a policy that rejects open
quotes gives no warning, and one that extends them gives no error about a quote. -/
theorem tokenizeCollecting_reports [CharacterData] (settings : Settings) (source : Text) :
    let run := tokenizeCollecting settings source
    List.Forall₂ (Token.Reported source) (run.1.filter Token.isFaulty) run.2 ∧
      ∀ d ∈ run.2, d.code ≠ some .invalidNumber ∧ d.code ≠ some .unknownToken ∧
        (settings.unterminatedStrings = .reject → d.level ≠ .warning) ∧
        (settings.unterminatedStrings = .extendToLineEnd →
          ¬ (d.level = .error ∧ d.code = some .unterminatedString)) := by
  simp only [tokenizeCollecting_eq]
  constructor
  · have hsame : List.Forall₂ (fun l m => l = m ∧ l ∈ ofSource settings source)
        (ofSource settings source) (ofSource settings source) :=
      List.forall₂_same.mpr fun l hl => ⟨rfl, hl⟩
    rw [← List.filterMap_eq_filter, List.filterMap_map]
    refine List.rel_filterMap ?_ hsame
    rintro l _ ⟨rfl, hl⟩
    obtain ⟨hnone, hfaulty⟩ | ⟨d, hd, hfaulty, hreported⟩ := diagnostic?_of_mem hl
    · simp [hnone, hfaulty, Option.guard]
    · simpa [hd, hfaulty, Option.guard] using hreported
  · intro d hd
    obtain ⟨l, hl, hd⟩ := List.mem_filterMap.mp hd
    obtain ⟨hwarning, herror⟩ := policy_of_diagnostic? hl hd
    obtain ⟨hnone, -⟩ | ⟨d', hd', -, hreported⟩ := diagnostic?_of_mem hl
    · simp [hnone] at hd
    obtain rfl : d' = d := Option.some.inj (hd'.symm.trans hd)
    refine ⟨?_, ?_, fun hpolicy hlevel => ?_, fun hpolicy h => ?_⟩
    · rw [hreported.code_eq]
      split <;> decide
    · rw [hreported.code_eq]
      split <;> decide
    · exact absurd (hwarning hlevel) (by simp [hpolicy])
    · exact absurd (herror h.1 h.2) (by simp [hpolicy])

/-- Three lines with faulty tokens, under either policy. -/
theorem tokenizeCollecting_reports_lines :
    let source : Text := "10 \"a\n@ \"\"\n20 ~ \"b".toList
    let extended := tokenizeCollecting ⟨.extendToLineEnd, false⟩ source
    let rejected := tokenizeCollecting {} source
    List.Forall₂ (Token.Reported source)
        [⟨.string, "\"a".toList, 3⟩, ⟨.unknown, ['@'], 6⟩, ⟨.unknown, ['~'], 14⟩,
          ⟨.string, "\"b".toList, 16⟩] extended.2 ∧
      (∀ d ∈ extended.2, ¬ (d.level = .error ∧ d.code = some .unterminatedString)) ∧
      List.Forall₂ (Token.Reported source)
        [⟨.unknown, ['"'], 3⟩, ⟨.unknown, ['@'], 6⟩, ⟨.unknown, ['~'], 14⟩, ⟨.unknown, ['"'], 16⟩]
        rejected.2 ∧
      ∀ d ∈ rejected.2, d.level ≠ .warning := by
  intro source extended rejected
  obtain ⟨hextended, hnoErrors⟩ := tokenizeCollecting_reports ⟨.extendToLineEnd, false⟩ source
  obtain ⟨hrejected, hnoWarnings⟩ := tokenizeCollecting_reports {} source
  have hfaulty : extended.1.filter Token.isFaulty = [⟨.string, "\"a".toList, 3⟩,
      ⟨.unknown, ['@'], 6⟩, ⟨.unknown, ['~'], 14⟩, ⟨.string, "\"b".toList, 16⟩] := by decide +kernel
  have hfaulty' : rejected.1.filter Token.isFaulty = [⟨.unknown, ['"'], 3⟩, ⟨.unknown, ['@'], 6⟩,
      ⟨.unknown, ['~'], 14⟩, ⟨.unknown, ['"'], 16⟩] := by decide +kernel
  exact ⟨hfaulty ▸ hextended, fun d hd => (hnoErrors d hd).2.2.2 rfl, hfaulty' ▸ hrejected,
    fun d hd => (hnoWarnings d hd).2.2.1 rfl⟩

end BasicTokens
