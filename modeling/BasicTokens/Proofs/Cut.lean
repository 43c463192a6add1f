import BasicTokens.Lexeme.Matcher
import BasicTokens.Proofs.Recognizers

/-!
# Proofs/Cut — the lexeme at the front of a text, and what may follow it

`Cut settings category s rest` says rule by rule when `s` is cut from the front of `s ++ rest`,
without regard to how it is measured (`Proofs/Front`).  Two facts hold of every rule.  What it looks
at in the text that follows is little (`MayFollow`, `Cut.of_mayFollow`) and never past the line
(`Cut.of_line_eq`), which is why lines can be read one by one and gaps can be changed.  And what it
cuts lies within a line and has no blank at an end.
-/

namespace BasicTokens

namespace Lexeme

open Character Grammar Text

/-! ## The rules, one by one -/

/-- The relations written with two characters. -/
def pairs : List Text := [['<', '>'], ['<', '='], ['>', '=']]

/-- The symbols written with one character. -/
def symbols : List Char := ['=', '+', '-', '*', '/', '<', '>', '(', ')', ',']

/-- **What is cut from the front of a text**: `Cut settings category s rest` if the text `s ++ rest`
gives the lexeme `s` of that category. -/
inductive Cut (settings : Settings) : Category → Text → Text → Prop
  /-- From the marker to the last character of the line that is no blank. -/
  | comment {s rest : Text} (marker : startsRemark settings.caseInsensitiveRemarks s = true)
      (inLine : ∀ c ∈ s, isLineEnd c = false) (trimmed : endsWith isBlank s = false)
      (tail : ∀ c ∈ rest.line, isBlank c = true) : Cut settings .comment s rest
  /-- From a quote to the next one on the line. -/
  | closedString {inner rest : Text} (plain : ∀ c ∈ inner, c ≠ '"' ∧ isLineEnd c = false) :
      Cut settings .string ('"' :: (inner ++ ['"'])) rest
  /-- From a quote without another one to the last character of the line that is no blank. -/
  | openString {inner rest : Text} (policy : settings.unterminatedStrings = .extendToLineEnd)
      (plain : ∀ c ∈ inner, c ≠ '"' ∧ isLineEnd c = false)
      (trimmed : endsWith isBlank inner = false) (tail : ∀ c ∈ rest.line, isBlank c = true) :
      Cut settings .string ('"' :: inner) rest
  /-- Digits that no digit follows, and no point with a digit after it. -/
  | integer {s rest : Text} (nonempty : s ≠ []) (digits : ∀ c ∈ s, c.isDigit = true)
      (stop : beginsWith Char.isDigit rest = false) (noFraction : Matcher.fraction rest = []) :
      Cut settings .number s rest
  /-- Digits, a point, and digits that no digit follows. -/
  | decimal {s u rest : Text} (nonempty : s ≠ []) (digits : ∀ c ∈ s, c.isDigit = true)
      (nonemptyFraction : u ≠ []) (fractionDigits : ∀ c ∈ u, c.isDigit = true)
      (stop : beginsWith Char.isDigit rest = false) : Cut settings .number (s ++ '.' :: u) rest
  /-- A name that does not begin with the marker, up to a character that is no part of a name. -/
  | word {s rest : Text} (name : isIdentifier s = true)
      (noMarker : startsRemark settings.caseInsensitiveRemarks s = false)
      (stop : beginsWith isNamePart rest = false) : Cut settings .word s rest
  /-- A relation of two characters. -/
  | relational {s rest : Text} (pair : s ∈ pairs) : Cut settings .relational s rest
  /-- A symbol that the next character does not complete to a relation. -/
  | single {c : Char} {rest : Text} (symbol : c ∈ symbols)
      (alone : beginsWith (fun d => pairs.contains [c, d]) rest = false) :
      Cut settings .single [c] rest
  /-- A quote without another one on its line. -/
  | rejectedQuote {rest : Text} (policy : settings.unterminatedStrings = .reject)
      (unclosed : '"' ∉ rest.line) : Cut settings .stray ['"'] rest
  /-- A character that begins nothing. -/
  | stray {c : Char} {rest : Text} (notBlank : isBlank c = false) (notQuote : c ≠ '"')
      (notDigit : c.isDigit = false) (notName : isNameStart c = false) (notSymbol : c ∉ symbols) :
      Cut settings .stray [c] rest

variable {settings : Settings} {category : Category} {s t rest : Text} {c : Char}

/-! ## What the first character excludes -/

theorem not_of_mem_symbols {p : Char → Bool} (hp : symbols.all (fun d => !p d) = true)
    (h : c ∈ symbols) : p c = false := by
  simpa using List.all_eq_true.mp hp c h

theorem isBlank_of_mem_symbols (h : c ∈ symbols) : isBlank c = false :=
  not_of_mem_symbols (by decide) h

/-- A relation of two characters is two symbols of one. -/
theorem exists_of_mem_pairs (h : s ∈ pairs) : ∃ c d, s = [c, d] ∧ c ∈ symbols ∧ d ∈ symbols := by
  simp only [pairs, List.mem_cons, List.not_mem_nil, or_false] at h
  rcases h with rfl | rfl | rfl <;> exact ⟨_, _, rfl, by decide, by decide⟩

/-! ## Symbols

The tables of operators and delimiters hold the relations of two characters and the symbols of one,
and nothing else. -/

/-- An operator or a delimiter. -/
def IsSymbol (t : Text) : Prop := isOperator t = true ∨ isDelimiter t = true

theorem isSymbol_iff : IsSymbol t ↔ t ∈ pairs ∨ ∃ c ∈ symbols, t = [c] := by
  simp only [IsSymbol, isOperator, operators, isDelimiter, delimiters, pairs, symbols,
    List.contains_iff_mem, List.mem_cons, List.not_mem_nil, or_false, exists_eq_or_imp,
    exists_eq_left, or_assoc]

/-- A symbol begins with a symbol of one character. -/
theorem exists_of_isSymbol (h : IsSymbol t) : ∃ c u, t = c :: u ∧ c ∈ symbols := by
  rcases isSymbol_iff.mp h with hpair | ⟨c, hc, rfl⟩
  · obtain ⟨c, d, rfl, hc, -⟩ := exists_of_mem_pairs hpair
    exact ⟨c, [d], rfl, hc⟩
  · exact ⟨c, [], rfl, hc⟩

/-! ## What a cut looks at in the text that follows

Whether it begins with certain characters, none of them a blank; whether it begins with a fraction;
and which characters other than blanks are on its line. -/

/-- A blank completes no relation. -/
theorem not_mem_pairs_of_isBlank {d : Char} (h : isBlank d = true) :
    pairs.contains [c, d] = false := by
  rw [Bool.eq_false_iff]
  intro hp
  obtain ⟨c', d', heq, -, hd⟩ := exists_of_mem_pairs (by simpa using hp)
  obtain ⟨-, rfl⟩ : c = c' ∧ d = d' := by simpa using heq
  exact absurd h (by simp [isBlank_of_mem_symbols hd])

theorem fraction_eq_nil (h : beginsWith (· == '.') t = false) : Matcher.fraction t = [] := by
  unfold Matcher.fraction
  split
  · simp at h
  · rfl

theorem fraction_point_eq_nil_iff :
    Matcher.fraction ('.' :: t) = [] ↔ beginsWith Char.isDigit t = false := by
  cases t with
  | nil => simp [Matcher.fraction]
  | cons c t => cases hc : c.isDigit <;> simp [Matcher.fraction, hc]

theorem fraction_line (t : Text) : Matcher.fraction t.line = Matcher.fraction t := by
  have hpoint : ∀ c, isLineEnd c = true → (c == '.') = false := fun c hc => by
    rcases eq_or_ne c '.' with rfl | hne
    · exact absurd hc (by decide)
    · simpa using hne
  rcases h : beginsWith (· == '.') t
  · rw [fraction_eq_nil h, fraction_eq_nil ((beginsWith_line hpoint t).trans h)]
  · obtain ⟨c, t, rfl, hc⟩ := exists_cons_of_beginsWith h
    obtain rfl : c = '.' := by simpa using hc
    have hline : Text.line ('.' :: t) = '.' :: Text.line t :=
      line_append (s := ['.']) (by simp [isLineEnd])
    rw [hline]
    exact takeWhile_line (fun d hd => isDigit_of_isBlank (isBlank_of_isLineEnd hd)) t

/-- Where only blanks follow on the line, a text without quotes is followed by none. -/
theorem quote_not_mem_line {inner : Text} (plain : ∀ c ∈ inner, c ≠ '"' ∧ isLineEnd c = false)
    (tail : ∀ c ∈ rest.line, isBlank c = true) : '"' ∉ (inner ++ rest).line := by
  rw [line_append fun c hc => (plain c hc).2, List.mem_append]
  rintro (hin | hin)
  · exact (plain _ hin).1 rfl
  · exact ne_quote_of_isBlank (tail _ hin) rfl

/-- **`t` may follow whatever `rest` may follow**: a cut finds nothing in `t` that it would not find
in `rest`, save for blanks. -/
structure MayFollow (rest t : Text) : Prop where
  begins : ∀ p : Char → Bool, (∀ c, isBlank c = true → p c = false) →
    beginsWith p rest = false → beginsWith p t = false
  fraction : Matcher.fraction rest = [] → Matcher.fraction t = []
  line : ∀ q : Char → Prop, (∀ c, isBlank c = true → q c) →
    (∀ c ∈ rest.line, q c) → ∀ c ∈ t.line, q c

namespace MayFollow

/-- The end of the source may follow everything. -/
theorem nil (rest : Text) : MayFollow rest [] :=
  ⟨fun _ _ _ => rfl, fun _ => rfl, fun _ _ _ _ hc => absurd hc List.not_mem_nil⟩

/-- Texts with the same line may follow the same. -/
theorem of_line_eq (h : rest.line = t.line) : MayFollow rest t where
  begins p hp hrest := by
    have hline : ∀ c, isLineEnd c = true → p c = false := fun c hc => hp c (isBlank_of_isLineEnd hc)
    rwa [← beginsWith_line hline t, ← h, beginsWith_line hline]
  fraction hrest := by rw [← fraction_line t, ← h, fraction_line, hrest]
  line q _ hrest := h ▸ hrest

end MayFollow

namespace Cut

/-- **A cut does not look closer at what follows.** -/
theorem of_mayFollow (h : Cut settings category s rest) (hrest : MayFollow rest t) :
    Cut settings category s t := by
  have hdigit := hrest.begins Char.isDigit fun c => isDigit_of_isBlank
  have htail := hrest.line (isBlank · = true) fun c hc => hc
  cases h with
  | comment marker inLine trimmed tail => exact .comment marker inLine trimmed (htail tail)
  | closedString plain => exact .closedString plain
  | openString policy plain trimmed tail => exact .openString policy plain trimmed (htail tail)
  | integer nonempty digits stop noFraction =>
    exact .integer nonempty digits (hdigit stop) (hrest.fraction noFraction)
  | decimal nonempty digits nonemptyFraction fractionDigits stop =>
    exact .decimal nonempty digits nonemptyFraction fractionDigits (hdigit stop)
  | word name noMarker stop =>
    exact .word name noMarker (hrest.begins isNamePart (fun c => isNamePart_of_isBlank) stop)
  | relational pair => exact .relational pair
  | single symbol alone =>
    exact .single symbol (hrest.begins _ (fun d => not_mem_pairs_of_isBlank) alone)
  | rejectedQuote policy unclosed =>
    refine .rejectedQuote policy fun hquote => ?_
    exact hrest.line (· ≠ '"') (fun c => ne_quote_of_isBlank)
      (fun c hc heq => unclosed (heq ▸ hc)) _ hquote rfl
  | stray notBlank notQuote notDigit notName notSymbol =>
    exact .stray notBlank notQuote notDigit notName notSymbol

/-- **What follows is looked at up to its line end only.** -/
theorem of_line_eq (h : Cut settings category s rest) (hline : rest.line = t.line) :
    Cut settings category s t :=
  h.of_mayFollow (.of_line_eq hline)

/-- **What is cut from a text can be cut by itself.** -/
theorem alone (h : Cut settings category s rest) : Cut settings category s [] :=
  h.of_mayFollow (.nil rest)

/-! ## A lexeme is not empty, lies within a line and has no blank at its ends -/

theorem ne_nil (h : Cut settings category s rest) : s ≠ [] := by
  cases h with
  | comment marker => rintro rfl; simpa using beginsWith_of_startsRemark marker
  | integer nonempty => exact nonempty
  | word name => exact isIdentifier_ne_nil name
  | relational pair => rintro rfl; simp [pairs] at pair
  | _ => simp

theorem beginsWith_isBlank (h : Cut settings category s rest) : beginsWith isBlank s = false := by
  cases h with
  | comment marker =>
    exact beginsWith_eq_false_of_excludes (beginsWith_of_startsRemark marker) fun c hc =>
      isBlank_of_isNamePart (isNamePart_of_isNameStart hc)
  | integer nonempty digits =>
    exact beginsWith_eq_false_of_excludes (beginsWith_of_forall nonempty digits) fun c =>
      isBlank_of_isDigit
  | decimal nonempty digits =>
    rw [beginsWith_append nonempty]
    exact beginsWith_eq_false_of_excludes (beginsWith_of_forall nonempty digits) fun c =>
      isBlank_of_isDigit
  | word name =>
    exact beginsWith_eq_false_of_excludes (isIdentifier_iff.mp name).1 fun c hc =>
      isBlank_of_isNamePart (isNamePart_of_isNameStart hc)
  | relational pair =>
    obtain ⟨c, d, rfl, symbol, -⟩ := exists_of_mem_pairs pair
    exact isBlank_of_mem_symbols symbol
  | single symbol => exact isBlank_of_mem_symbols symbol
  | stray notBlank => exact notBlank
  | _ => rfl

theorem endsWith_isBlank (h : Cut settings category s rest) : endsWith isBlank s = false := by
  cases h with
  | comment marker inLine trimmed => exact trimmed
  | closedString plain => rw [← List.cons_append, endsWith_concat]; rfl
  | @openString inner _ policy plain trimmed =>
    rcases inner with _ | ⟨c, inner⟩
    · rfl
    · rwa [← List.singleton_append, endsWith_append (by simp)]
  | integer nonempty digits =>
    exact endsWith_eq_false_of_forall fun c hc => isBlank_of_isDigit (digits c hc)
  | @decimal s u _ nonempty digits nonemptyFraction fractionDigits =>
    rw [← List.singleton_append, ← List.append_assoc, endsWith_append nonemptyFraction]
    exact endsWith_eq_false_of_forall fun c hc => isBlank_of_isDigit (fractionDigits c hc)
  | word name =>
    exact endsWith_eq_false_of_forall fun c hc =>
      isBlank_of_isNamePart ((isIdentifier_iff.mp name).2 c hc)
  | relational pair =>
    obtain ⟨c, d, rfl, -, symbol⟩ := exists_of_mem_pairs pair
    exact isBlank_of_mem_symbols symbol
  | single symbol => exact isBlank_of_mem_symbols symbol
  | rejectedQuote => rfl
  | stray notBlank => exact notBlank

/-- No lexeme reaches past a line end. -/
theorem isLineEnd_eq_false (h : Cut settings category s rest) :
    ∀ c ∈ s, isLineEnd c = false := by
  cases h with
  | comment _ inLine => exact inLine
  | closedString plain =>
    simp only [List.forall_mem_cons, List.forall_mem_append]
    exact ⟨rfl, fun c hc => (plain c hc).2, rfl, by simp⟩
  | openString _ plain => exact List.forall_mem_cons.mpr ⟨rfl, fun c hc => (plain c hc).2⟩
  | integer _ digits => exact fun c hc => isLineEnd_of_isBlank (isBlank_of_isDigit (digits c hc))
  | decimal _ digits _ fractionDigits =>
    simp only [List.forall_mem_cons, List.forall_mem_append]
    exact ⟨fun c hc => isLineEnd_of_isBlank (isBlank_of_isDigit (digits c hc)), rfl,
      fun c hc => isLineEnd_of_isBlank (isBlank_of_isDigit (fractionDigits c hc))⟩
  | word name => exact fun c hc => isLineEnd_of_isNamePart ((isIdentifier_iff.mp name).2 c hc)
  | relational pair =>
    obtain ⟨c, d, rfl, hc, hd⟩ := exists_of_mem_pairs pair
    simpa using ⟨isLineEnd_of_isBlank (isBlank_of_mem_symbols hc),
      isLineEnd_of_isBlank (isBlank_of_mem_symbols hd)⟩
  | single symbol => simpa using isLineEnd_of_isBlank (isBlank_of_mem_symbols symbol)
  | rejectedQuote => simp [isLineEnd]
  | stray notBlank => simpa using isLineEnd_of_isBlank notBlank

end Cut

end Lexeme

end BasicTokens
