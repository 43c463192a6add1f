import BasicTokens.Proofs.Scan

/-!
# Proofs/LongestMatch — a step of the scanner takes the longest match of the first rule that applies

The rules are stated over the recognizers of whole texts: which rule applies is read off the front
of the unread text, and the lexeme is the longest prefix of the kind the rule names
(`LongestMatch`).  The rules do not say how a lexeme is measured; that a step of the scanner takes
just this lexeme is the last theorem.
-/

namespace BasicTokens

open Character Grammar Text

namespace Lexeme

/-! ## The rules -/

/-- `s` is the longest prefix of `r` for which `p` holds. -/
structure LongestPrefix (p : Text → Prop) (r s : Text) : Prop where
  isPrefix : s <+: r
  holds : p s
  longest : ∀ u, u <+: r → p u → u.length ≤ s.length

/-- On one line, and without a blank at the end. -/
def IsTrimmedLine (t : Text) : Prop :=
  (∀ c ∈ t, isLineEnd c = false) ∧ endsWith isBlank t = false

/-- The category of a symbol. -/
def symbolCategory (t : Text) : Category := if t.length = 2 then .relational else .single

/-- A quote, and another one before any line end. -/
def ClosesOnLine (r : Text) : Prop := ∃ body : Text, r = '"' :: body ∧ '"' ∈ body.line

open scoped Classical in
/-- **The lexeme in front of a text**, by the first rule that applies: a comment, a closed string,
an open one where the policy extends it, a number, a word, a symbol, or else one character. -/
def LongestMatch (settings : Settings) (r : Text) (category : Category) (s : Text) : Prop :=
  if startsRemark settings.caseInsensitiveRemarks r = true then
    category = .comment ∧ LongestPrefix IsTrimmedLine r s
  else if ClosesOnLine r then
    category = .string ∧ ∃ inner, '"' ∉ inner ∧ s = '"' :: (inner ++ ['"']) ∧ s <+: r
  else if beginsWith (· == '"') r = true ∧ settings.unterminatedStrings = .extendToLineEnd then
    category = .string ∧ LongestPrefix IsTrimmedLine r s
  else if beginsWith Char.isDigit r = true then
    category = .number ∧ LongestPrefix (isNumber · = true) r s
  else if beginsWith isNameStart r = true then
    category = .word ∧ LongestPrefix (isIdentifier · = true) r s
  else if ∃ u, u <+: r ∧ IsSymbol u then
    category = symbolCategory s ∧ LongestPrefix IsSymbol r s
  else
    category = .stray ∧ s.length = 1 ∧ s <+: r

variable {settings : Settings} {category category' : Category} {r s s' t u rest : Text} {c : Char}

/-! ## A text has one longest match -/

theorem eq_of_prefix_of_length (hs : s <+: r) (hs' : s' <+: r) (h : s.length = s'.length) :
    s = s' :=
  (List.prefix_of_prefix_length_le hs hs' h.le).eq_of_length h

theorem LongestPrefix.unique {p : Text → Prop} (h : LongestPrefix p r s)
    (h' : LongestPrefix p r s') : s = s' :=
  eq_of_prefix_of_length h.isPrefix h'.isPrefix
    (Nat.le_antisymm (h'.longest _ h.isPrefix h.holds) (h.longest _ h'.isPrefix h'.holds))

/-- The next quote is at one place. -/
theorem closed_unique {inner inner' : Text} (hinner : '"' ∉ inner) (hinner' : '"' ∉ inner')
    (h : '"' :: (inner ++ ['"']) <+: r) (h' : '"' :: (inner' ++ ['"']) <+: r) : inner = inner' := by
  obtain ⟨u, rfl⟩ := h
  obtain ⟨u', hu'⟩ := h'
  exact (append_mark_inj hinner hinner' (by simpa using hu'.symm)).1

theorem LongestMatch.unique (h : LongestMatch settings r category s)
    (h' : LongestMatch settings r category' s') : category = category' ∧ s = s' := by
  unfold LongestMatch at h h'
  split_ifs at h h' with hmarker hcloses hquote hdigit hname hsymbol
  · exact ⟨h.1.trans h'.1.symm, h.2.unique h'.2⟩
  · obtain ⟨rfl, inner, hinner, rfl, hprefix⟩ := h
    obtain ⟨rfl, inner', hinner', rfl, hprefix'⟩ := h'
    rw [closed_unique hinner hinner' hprefix hprefix']
    exact ⟨rfl, rfl⟩
  · exact ⟨h.1.trans h'.1.symm, h.2.unique h'.2⟩
  · exact ⟨h.1.trans h'.1.symm, h.2.unique h'.2⟩
  · exact ⟨h.1.trans h'.1.symm, h.2.unique h'.2⟩
  · obtain rfl := h.2.unique h'.2
    exact ⟨h.1.trans h'.1.symm, rfl⟩
  · exact ⟨h.1.trans h'.1.symm,
      eq_of_prefix_of_length h.2.2 h'.2.2 (h.2.1.trans h'.2.1.symm)⟩

/-! ## What follows a cut does not extend it -/

/-- A prefix of two parts is no longer than the first, or takes something of the second. -/
theorem length_le_or_exists (h : u <+: s ++ rest) :
    u.length ≤ s.length ∨ ∃ c v, u = s ++ c :: v ∧ c :: v <+: rest := by
  rcases List.prefix_or_prefix_of_prefix h (List.prefix_append s rest) with hle | ⟨v, rfl⟩
  · exact Or.inl hle.length_le
  · rcases v with _ | ⟨c, v⟩
    · exact Or.inl (by simp)
    · exact Or.inr ⟨c, v, rfl, (List.prefix_append_right_inj s).mp h⟩

theorem longestPrefix_append {p : Text → Prop} (hs : p s)
    (hmore : ∀ c v, c :: v <+: rest → ¬ p (s ++ c :: v)) : LongestPrefix p (s ++ rest) s where
  isPrefix := List.prefix_append s rest
  holds := hs
  longest u hu hpu := by
    rcases length_le_or_exists hu with hle | ⟨c, v, rfl, hv⟩
    · exact hle
    · exact absurd hpu (hmore c v hv)

theorem beginsWith_of_prefix_cons {p : Char → Bool} {v : Text} (h : c :: v <+: rest) :
    beginsWith p rest = p c := by
  obtain ⟨w, rfl⟩ := h
  rfl

/-- Beyond a trimmed line there are blanks only. -/
theorem longestPrefix_trimmedLine (hs : IsTrimmedLine s)
    (tail : ∀ c ∈ rest.line, isBlank c = true) : LongestPrefix IsTrimmedLine (s ++ rest) s := by
  refine longestPrefix_append hs ?_
  intro c v hv hmore
  obtain ⟨w, rfl⟩ := hv
  have hinLine : ∀ d ∈ c :: v, isLineEnd d = false := fun d hd =>
    hmore.1 d (List.mem_append_right _ hd)
  have hblank : ∀ d ∈ c :: v, isBlank d = true := fun d hd =>
    tail d (by rw [line_append hinLine]; exact List.mem_append_left _ hd)
  have hends : endsWith isBlank (c :: v) = false := by
    rw [← endsWith_append (s := s) (by simp)]
    exact hmore.2
  rcases List.eq_nil_or_concat' (c :: v) with hnil | ⟨x, d, hx⟩
  · simp at hnil
  · rw [hx, endsWith_concat] at hends
    exact absurd (hblank d (by simp [hx])) (by simp [hends])

/-- The digits before a point are where they are. -/
theorem digits_unique {f : Text} {v : Text} (hs : ∀ c ∈ s, c.isDigit = true)
    (ht : ∀ c ∈ t, c.isDigit = true) (hv : beginsWith Char.isDigit v = false)
    (h : s ++ v = t ++ '.' :: f) : s = t ∧ v = '.' :: f := by
  have hst : s = t := by
    rw [← takeWhile_append_stop hs hv, h, takeWhile_append_stop ht rfl]
  exact ⟨hst, by simpa [hst] using h⟩

theorem longestPrefix_integer (nonempty : s ≠ []) (digits : ∀ c ∈ s, c.isDigit = true)
    (stop : beginsWith Char.isDigit rest = false) (noFraction : Matcher.fraction rest = []) :
    LongestPrefix (isNumber · = true) (s ++ rest) s := by
  refine longestPrefix_append (isNumber_digits digits nonempty) ?_
  intro c v hv hnumber
  have hc : c.isDigit = false := (beginsWith_of_prefix_cons hv).symm.trans stop
  rcases digits_or_decimal_of_isNumber hnumber with ⟨-, hall⟩ | ⟨t, f, heq, ht, hne, hf⟩
  · exact absurd (hall c (by simp)) (by simp [hc])
  · obtain ⟨-, hpoint⟩ := digits_unique digits ht (v := c :: v) hc heq
    obtain ⟨w, rfl⟩ := hv
    obtain ⟨d, f, rfl⟩ := List.exists_cons_of_ne_nil hne
    rw [hpoint] at noFraction
    have hd : d.isDigit = true := hf d (by simp)
    simp [Matcher.fraction, hd] at noFraction

theorem longestPrefix_decimal (digits : ∀ c ∈ s, c.isDigit = true) (nonempty : u ≠ [])
    (fractionDigits : ∀ c ∈ u, c.isDigit = true) (stop : beginsWith Char.isDigit rest = false) :
    LongestPrefix (isNumber · = true) (s ++ '.' :: u ++ rest) (s ++ '.' :: u) := by
  refine longestPrefix_append (isNumber_decimal digits fractionDigits nonempty) ?_
  intro c v hv hnumber
  have hc : c.isDigit = false := (beginsWith_of_prefix_cons hv).symm.trans stop
  rcases digits_or_decimal_of_isNumber hnumber with ⟨-, hall⟩ | ⟨t, f, heq, ht, -, hf⟩
  · exact absurd (hall c (by simp)) (by simp [hc])
  · have heq' : s ++ '.' :: (u ++ c :: v) = t ++ '.' :: f := by simpa using heq
    obtain ⟨-, hpoint⟩ := digits_unique digits ht rfl heq'
    obtain ⟨-, rfl⟩ := List.cons.inj hpoint
    exact absurd (hf c (by simp)) (by simp [hc])

theorem longestPrefix_name (name : isIdentifier s = true)
    (stop : beginsWith isNamePart rest = false) :
    LongestPrefix (isIdentifier · = true) (s ++ rest) s := by
  refine longestPrefix_append name ?_
  intro c v hv hname
  have hc : isNamePart c = false := (beginsWith_of_prefix_cons hv).symm.trans stop
  exact absurd ((isIdentifier_iff.mp hname).2 c (by simp)) (by simp [hc])

theorem longestPrefix_pair (pair : s ∈ pairs) : LongestPrefix IsSymbol (s ++ rest) s := by
  refine longestPrefix_append (isSymbol_iff.mpr (Or.inl pair)) ?_
  intro c v hv hsymbol
  obtain ⟨d, e, rfl, -, -⟩ := exists_of_mem_pairs pair
  rcases isSymbol_iff.mp hsymbol with hpair | ⟨x, -, hx⟩
  · obtain ⟨x, y, hxy, -, -⟩ := exists_of_mem_pairs hpair
    simp at hxy
  · simp at hx

theorem longestPrefix_single (symbol : c ∈ symbols)
    (alone : beginsWith (fun d => pairs.contains [c, d]) rest = false) :
    LongestPrefix IsSymbol (c :: rest) [c] := by
  refine longestPrefix_append (s := [c]) (isSymbol_iff.mpr (Or.inr ⟨c, symbol, rfl⟩)) ?_
  intro d v hv hsymbol
  rcases isSymbol_iff.mp hsymbol with hpair | ⟨x, -, hx⟩
  · obtain ⟨x, y, hxy, -, -⟩ := exists_of_mem_pairs hpair
    obtain ⟨rfl, rfl, rfl⟩ : c = x ∧ d = y ∧ v = [] := by simpa using hxy
    rw [beginsWith_of_prefix_cons hv] at alone
    exact absurd hpair (by simpa using alone)
  · simp at hx

/-! ## A cut is the longest match -/

theorem closesOnLine_quote_iff {body : Text} : ClosesOnLine ('"' :: body) ↔ '"' ∈ body.line := by
  refine ⟨?_, fun h => ⟨body, rfl, h⟩⟩
  rintro ⟨body', heq, h⟩
  rwa [(List.cons.inj heq).2]

/-- Before another character, no rule for quotes applies. -/
theorem not_quote_rules (settings : Settings) (t : Text) (hquote : c ≠ '"') :
    ¬ ClosesOnLine (c :: t) ∧
      ¬ (beginsWith (· == '"') (c :: t) = true ∧
        settings.unterminatedStrings = .extendToLineEnd) := by
  refine ⟨?_, fun h => hquote (by simpa using h.1)⟩
  rintro ⟨body, heq, -⟩
  exact hquote (List.cons.inj heq).1

theorem longestMatch_number (hdigit : beginsWith Char.isDigit r = true)
    (h : LongestPrefix (isNumber · = true) r s) : LongestMatch settings r .number s := by
  obtain ⟨c, t, rfl, hc⟩ := exists_cons_of_beginsWith hdigit
  have hmarker : startsRemark settings.caseInsensitiveRemarks (c :: t) = false :=
    startsRemark_eq_false (isNameStart_of_isDigit hc)
  obtain ⟨hcloses, hopen⟩ := not_quote_rules settings t
    (ne_quote_of_isNamePart (isNamePart_of_isDigit hc))
  unfold LongestMatch
  rw [if_neg (by simp [hmarker]), if_neg hcloses, if_neg hopen, if_pos hdigit]
  exact ⟨rfl, h⟩

theorem longestMatch_word (hstart : beginsWith isNameStart r = true)
    (hmarker : startsRemark settings.caseInsensitiveRemarks r = false)
    (h : LongestPrefix (isIdentifier · = true) r s) : LongestMatch settings r .word s := by
  obtain ⟨c, t, rfl, hc⟩ := exists_cons_of_beginsWith hstart
  obtain ⟨hcloses, hopen⟩ := not_quote_rules settings t
    (ne_quote_of_isNamePart (isNamePart_of_isNameStart hc))
  have hdigit : c.isDigit = false := isDigit_of_isNameStart hc
  unfold LongestMatch
  rw [if_neg (by simp [hmarker]), if_neg hcloses, if_neg hopen, if_neg (by simp [hdigit]),
    if_pos hstart]
  exact ⟨rfl, h⟩

open scoped Classical in
/-- Before a character that begins nothing longer, a symbol or the character itself is taken. -/
theorem longestMatch_other_iff (hquote : c ≠ '"') (hdigit : c.isDigit = false)
    (hname : isNameStart c = false) : LongestMatch settings (c :: t) category s ↔
      if ∃ u, u <+: c :: t ∧ IsSymbol u then
        category = symbolCategory s ∧ LongestPrefix IsSymbol (c :: t) s
      else category = .stray ∧ s.length = 1 ∧ s <+: c :: t := by
  have hmarker : startsRemark settings.caseInsensitiveRemarks (c :: t) = false :=
    startsRemark_eq_false hname
  obtain ⟨hcloses, hopen⟩ := not_quote_rules settings t hquote
  unfold LongestMatch
  rw [if_neg (by simp [hmarker]), if_neg hcloses, if_neg hopen, if_neg (by simp [hdigit]),
    if_neg (by simp [hname])]

/-- Before a symbol, a symbol is taken. -/
theorem longestMatch_symbol (symbol : c ∈ symbols) (h : LongestPrefix IsSymbol (c :: t) s) :
    LongestMatch settings (c :: t) (symbolCategory s) s := by
  have hquote : c ≠ '"' := by simpa using not_of_mem_symbols (p := (· == '"')) (by decide) symbol
  refine (longestMatch_other_iff hquote (not_of_mem_symbols (by decide) symbol)
    (not_of_mem_symbols (by decide) symbol)).mpr ?_
  rw [if_pos ⟨s, h.isPrefix, h.holds⟩]
  exact ⟨rfl, h⟩

/-- Before a character that is no symbol, no prefix is one. -/
theorem not_exists_symbol (h : c ∉ symbols) : ¬ ∃ u, u <+: c :: t ∧ IsSymbol u := by
  rintro ⟨u, ⟨v, huv⟩, hu⟩
  obtain ⟨d, u, rfl, hd⟩ := exists_of_isSymbol hu
  obtain ⟨rfl, -⟩ : d = c ∧ u ++ v = t := by simpa using huv
  exact h hd

open scoped Classical in
/-- Before a quote, its line and the policy decide. -/
theorem longestMatch_quote_iff {body : Text} : LongestMatch settings ('"' :: body) category s ↔
    if '"' ∈ body.line then
      category = .string ∧ ∃ inner, '"' ∉ inner ∧ s = '"' :: (inner ++ ['"']) ∧ s <+: '"' :: body
    else if settings.unterminatedStrings = .extendToLineEnd then
      category = .string ∧ LongestPrefix IsTrimmedLine ('"' :: body) s
    else category = .stray ∧ s.length = 1 ∧ s <+: '"' :: body := by
  have hmarker : startsRemark settings.caseInsensitiveRemarks ('"' :: body) = false :=
    startsRemark_eq_false rfl
  unfold LongestMatch
  rw [if_neg (by simp [hmarker])]
  by_cases hquote : '"' ∈ body.line
  · rw [if_pos (closesOnLine_quote_iff.mpr hquote), if_pos hquote]
  · rw [if_neg (closesOnLine_quote_iff.not.mpr hquote), if_neg hquote]
    by_cases hpolicy : settings.unterminatedStrings = .extendToLineEnd
    · rw [if_pos ⟨rfl, hpolicy⟩, if_pos hpolicy]
    · rw [if_neg fun h => hpolicy h.2, if_neg hpolicy, if_neg (by simp),
        if_neg (by simp [isNameStart]), if_neg (not_exists_symbol (by decide))]

theorem longestMatch_closedString {inner : Text}
    (plain : ∀ c ∈ inner, c ≠ '"' ∧ isLineEnd c = false) :
    LongestMatch settings ('"' :: (inner ++ ['"']) ++ rest) .string ('"' :: (inner ++ ['"'])) := by
  have hassoc : '"' :: (inner ++ ['"']) ++ rest = '"' :: (inner ++ '"' :: rest) := by simp
  have hcloses : '"' ∈ Text.line (inner ++ '"' :: rest) := by
    rw [line_append fun c hc => (plain c hc).2]
    exact List.mem_append_right _ List.mem_cons_self
  rw [hassoc, longestMatch_quote_iff, if_pos hcloses]
  exact ⟨rfl, inner, fun hin => (plain _ hin).1 rfl, rfl, rest, hassoc⟩

/-- **A cut is the longest match of the first rule that applies.** -/
theorem Cut.longestMatch (h : Cut settings category s rest) :
    LongestMatch settings (s ++ rest) category s := by
  have htrimmed := h.endsWith_isBlank
  cases h with
  | comment marker inLine trimmed tail =>
    unfold LongestMatch
    rw [if_pos (startsRemark_append_of_startsRemark marker rest)]
    exact ⟨rfl, longestPrefix_trimmedLine ⟨inLine, trimmed⟩ tail⟩
  | closedString plain => exact longestMatch_closedString plain
  | @openString inner _ policy plain trimmed tail =>
    have hinLine : ∀ c ∈ '"' :: inner, isLineEnd c = false :=
      List.forall_mem_cons.mpr ⟨rfl, fun c hc => (plain c hc).2⟩
    rw [List.cons_append, longestMatch_quote_iff, if_neg (quote_not_mem_line plain tail),
      if_pos policy]
    exact ⟨rfl, longestPrefix_trimmedLine ⟨hinLine, htrimmed⟩ tail⟩
  | integer nonempty digits stop noFraction =>
    refine longestMatch_number ?_ (longestPrefix_integer nonempty digits stop noFraction)
    exact (beginsWith_append nonempty).trans (beginsWith_of_forall nonempty digits)
  | decimal nonempty digits nonemptyFraction fractionDigits stop =>
    refine longestMatch_number ?_
      (longestPrefix_decimal digits nonemptyFraction fractionDigits stop)
    rw [List.append_assoc, beginsWith_append nonempty]
    exact beginsWith_of_forall nonempty digits
  | word name noMarker stop =>
    exact longestMatch_word
      ((beginsWith_append (isIdentifier_ne_nil name)).trans (isIdentifier_iff.mp name).1)
      (startsRemark_append_eq_false noMarker stop) (longestPrefix_name name stop)
  | relational pair =>
    obtain ⟨c, d, rfl, symbol, -⟩ := exists_of_mem_pairs pair
    exact longestMatch_symbol symbol (longestPrefix_pair pair)
  | single symbol alone => exact longestMatch_symbol symbol (longestPrefix_single symbol alone)
  | rejectedQuote policy unclosed =>
    rw [List.singleton_append, longestMatch_quote_iff, if_neg unclosed, if_neg (by simp [policy])]
    exact ⟨rfl, rfl, rest, rfl⟩
  | stray notBlank notQuote notDigit notName notSymbol =>
    refine (longestMatch_other_iff notQuote notDigit notName).mpr ?_
    rw [if_neg (not_exists_symbol notSymbol)]
    exact ⟨rfl, rfl, rest, rfl⟩

/-- In front of nothing there is no match. -/
theorem not_longestMatch_nil : ¬ LongestMatch settings [] category s := by
  unfold LongestMatch
  rw [if_neg (by simp [startsRemark_eq_false (t := []) rfl]), if_neg (by simp [ClosesOnLine]),
    if_neg (by simp), if_neg (by simp), if_neg (by simp), if_neg]
  · rintro ⟨-, hlen, hprefix⟩
    simp [List.prefix_nil.mp hprefix] at hlen
  · rintro ⟨u, hprefix, hsymbol⟩
    obtain ⟨c, v, rfl, -⟩ := exists_of_isSymbol hsymbol
    simp at hprefix

end Lexeme

open Lexeme

/-! ## A step takes the longest match -/

/-- **A step of the scanner takes the longest match**, and nothing else is one: after the blanks in
front, it stops at the end of the text only, and what it takes is the one pair of category and text
that the rules allow. -/
theorem Scanner.next?_longestMatch (scanner : Scanner) :
    let r := (scanner.cursor.skipWhile isBlank).rest
    (scanner.next? = none ↔ r = []) ∧
      ∀ category text, LongestMatch scanner.settings r category text ↔
        ∃ lexeme scanner', scanner.next? = some (lexeme, scanner') ∧
          lexeme.category = category ∧ lexeme.text = text ∧ text ++ scanner'.cursor.rest = r := by
  rcases scanner.next?_cases with ⟨hblank, hnone⟩ | ⟨w, category, s, rest, hrest, hw, hcut, hsome⟩
  · have hrest : scanner.cursor.rest = scanner.cursor.rest ++ [] := by simp
    rw [skipWhile_isBlank hrest hblank rfl, hnone]
    simp [not_longestMatch_nil]
  · have hstop : beginsWith isBlank (s ++ rest) = false :=
      (beginsWith_append hcut.ne_nil).trans hcut.beginsWith_isBlank
    rw [skipWhile_isBlank hrest hw hstop, hsome]
    refine ⟨by simp [hcut.ne_nil], fun category' text => ⟨?_, ?_⟩⟩
    · intro h
      obtain ⟨rfl, rfl⟩ := hcut.longestMatch.unique h
      exact ⟨_, _, rfl, rfl, rfl, rfl⟩
    · rintro ⟨lexeme, scanner', heq, rfl, rfl, -⟩
      obtain ⟨rfl, -⟩ := Prod.mk.inj (Option.some.inj heq)
      exact hcut.longestMatch

end BasicTokens
