import BasicTokens.Proofs.Run

/-!
# Proofs/Agreement — the classifier gives a lexeme the kind it was cut for

The scanner knows by which rule it cut a lexeme, the classifier sees the text alone and goes through
rules of its own.  Rule by rule, what is cut passes the classifier's tests up to its own kind
(`Cut.gives`), because the tests before it look for another first character.
-/

namespace BasicTokens

open Character Grammar Text

/-! ## The kind of a trimmed text -/

namespace Token

variable {settings : Settings} {t : Text} {offset : Nat}

theorem isString_eq_false (h : beginsWith (· == '"') t = false) : isString settings t = false := by
  rw [isString, isStringLiteral_eq_false h, isOpenString_eq_false h, Bool.and_false, Bool.or_false]

/-- **The text is kept**, save that a reserved word is put in upper case. -/
theorem text_ofTrimmed (settings : Settings) (t : Text) (offset : Nat) :
    (ofTrimmed settings t offset).offset = offset ∧
      if (ofTrimmed settings t offset).kind = .keyword then
        (ofTrimmed settings t offset).text = t.toUpper ∧
          (ofTrimmed settings t offset).text ∈ keywords
      else (ofTrimmed settings t offset).text = t := by
  unfold ofTrimmed
  split
  · exact ⟨rfl, rfl⟩
  split
  · exact ⟨rfl, rfl⟩
  split
  · exact ⟨rfl, rfl⟩
  split
  · rename_i keyword hk
    exact ⟨rfl, eq_toUpper_of_keyword? hk, mem_keywords_of_keyword? hk⟩
  · split
    · exact ⟨rfl, rfl⟩
    split
    · exact ⟨rfl, rfl⟩
    split
    · exact ⟨rfl, rfl⟩
    · exact ⟨rfl, rfl⟩

/-- What is no reserved word keeps its text. -/
theorem text_eq_of_kind_ne (h : (ofTrimmed settings t offset).kind ≠ .keyword) :
    (ofTrimmed settings t offset).text = t := by
  simpa only [if_neg h] using (text_ofTrimmed settings t offset).2

/-- **The offset moves past the characters of the blanks in front**, as each is one byte. -/
theorem classify_eq (settings : Settings) (t : Text) (offset : Nat) :
    classify settings t offset
      = ofTrimmed settings (t.trim isBlank) (offset + (t.takeWhile isBlank).length) := by
  have hbytes : t.byteLength
      = byteLength (t.takeWhile isBlank) + byteLength (t.dropWhile isBlank) := by
    rw [← byteLength_append, List.takeWhile_append_dropWhile]
  have hblank : byteLength (t.takeWhile isBlank) = (t.takeWhile isBlank).length :=
    byteLength_eq_length fun c hc =>
      forall_blank (q := fun d => d.utf8Size = 1) (by decide) (List.mem_takeWhile_imp hc)
  rw [← hblank, Nat.eq_sub_of_add_eq hbytes.symm]
  rfl

/-- A text without blanks at its ends is classified as it is. -/
theorem classify_of_trimmed (hb : beginsWith isBlank t = false) (he : endsWith isBlank t = false) :
    classify settings t offset = ofTrimmed settings t offset := by
  have hfront : t.takeWhile isBlank = [] := takeWhile_append_stop (s := []) (by simp) hb
  rw [classify_eq, trim_eq_self hb he, hfront, List.length_nil, Nat.add_zero]

theorem kind_of_marker (h : startsRemark settings.caseInsensitiveRemarks t = true) :
    (ofTrimmed settings t offset).kind = .comment := by
  rw [ofTrimmed, if_pos h]

/-- Before the string test there is the marker only, and no string begins with it. -/
theorem kind_of_string (h : isString settings t = true) :
    (ofTrimmed settings t offset).kind = .string := by
  have hmarker : startsRemark settings.caseInsensitiveRemarks t = false := by
    refine startsRemark_eq_false ?_
    rcases hq : beginsWith (· == '"') t
    · simp [isString_eq_false hq] at h
    · refine beginsWith_eq_false_of_excludes hq ?_
      intro c hc
      obtain rfl : c = '"' := by simpa using hc
      rfl
  rw [ofTrimmed, if_neg (by simp [hmarker]), if_pos h]

/-- Neither the marker nor a string begins with a digit. -/
theorem kind_of_number (hdigit : beginsWith Char.isDigit t = true) (h : isNumber t = true) :
    (ofTrimmed settings t offset).kind = .number := by
  have hmarker : startsRemark settings.caseInsensitiveRemarks t = false :=
    startsRemark_eq_false (beginsWith_eq_false_of_excludes hdigit fun c => isNameStart_of_isDigit)
  have hstring : isString settings t = false :=
    isString_eq_false (beginsWith_eq_false_of_excludes hdigit fun c hc => by
      simpa using ne_quote_of_isNamePart (isNamePart_of_isDigit hc))
  rw [ofTrimmed, if_neg (by simp [hmarker]), if_neg (by simp [hstring]), if_pos h]

/-- A name is a reserved word or not, unless it begins with the marker. -/
theorem kind_of_name (hmarker : startsRemark settings.caseInsensitiveRemarks t = false)
    (h : isIdentifier t = true) :
    (ofTrimmed settings t offset).kind
      = if ∃ k ∈ keywords, equalsIgnoringCase k t = true then .keyword else .identifier := by
  have hstart := (isIdentifier_iff.mp h).1
  have hstring : isString settings t = false :=
    isString_eq_false (beginsWith_eq_false_of_excludes hstart fun c hc => by
      simpa using ne_quote_of_isNamePart (isNamePart_of_isNameStart hc))
  have hnumber : isNumber t = false := by
    refine isNumber_eq_false
      (beginsWith_eq_false_of_excludes hstart fun c => isDigit_of_isNameStart)
      (beginsWith_eq_false_of_excludes hstart ?_)
    intro c hc
    rcases eq_or_ne c '.' with rfl | hne
    · exact absurd hc (by decide)
    · simpa using hne
  rw [ofTrimmed, if_neg (by simp [hmarker]), if_neg (by simp [hstring]), if_neg (by simp [hnumber])]
  rcases hk : keyword? t with _ | k
  · have hno : ¬ ∃ k ∈ keywords, equalsIgnoringCase k t = true := by
      simpa using keyword?_eq_none_iff.mp hk
    simp only [if_pos h, if_neg hno]
  · have hyes : ∃ k ∈ keywords, equalsIgnoringCase k t = true :=
      ⟨k, mem_keywords_of_keyword? hk, by simp [equalsIgnoringCase, toUpper_eq_of_keyword? hk]⟩
    simp only [if_pos hyes]

/-- What begins with no letter and is neither a string nor a number is a symbol or unknown. -/
theorem kind_of_other (hname : beginsWith isNameStart t = false)
    (hstring : isString settings t = false) (hnumber : isNumber t = false) :
    (ofTrimmed settings t offset).kind
      = if isOperator t then .operator else if isDelimiter t then .delimiter else .unknown := by
  rw [ofTrimmed, if_neg (by simp [startsRemark_eq_false hname]), if_neg (by simp [hstring]),
    if_neg (by simp [hnumber]), keyword?_eq_none hname]
  simp only [isIdentifier_eq_false hname, Bool.false_eq_true, if_false]
  split
  · rfl
  · split <;> rfl

end Token

namespace Lexeme

variable {settings : Settings} {category : Category} {s rest : Text} {c : Char} {offset : Nat}

/-! ## The kind of a cut -/

/-- **The kinds of token that a category calls for**, given the text of the lexeme. -/
def Category.Gives (text : Text) : Category → Token.Kind → Prop
  | .comment, kind => kind = .comment
  | .string, kind => kind = .string
  | .number, kind => kind = .number
  | .word, kind =>
    kind = if ∃ k ∈ keywords, equalsIgnoringCase k text = true then .keyword else .identifier
  | .relational, kind => kind = .operator
  | .single, kind => kind = .operator ∨ kind = .delimiter
  | .stray, kind => kind = .unknown

/-- Of a symbol, only the tables of operators and delimiters know. -/
theorem kind_of_symbol {t : Text} (symbol : c ∈ symbols) :
    (Token.ofTrimmed settings (c :: t) offset).kind
      = if isOperator (c :: t) then .operator
        else if isDelimiter (c :: t) then .delimiter else .unknown := by
  have hnot : ∀ p : Char → Bool, symbols.all (fun d => !p d) = true →
      beginsWith p (c :: t) = false := fun p hp => not_of_mem_symbols hp symbol
  exact Token.kind_of_other (hnot _ (by decide)) (Token.isString_eq_false (hnot _ (by decide)))
    (isNumber_eq_false (hnot _ (by decide)) (hnot _ (by decide)))

/-- What is cut for a string counts as one. -/
theorem Cut.isString (h : Cut settings .string s rest) : Token.isString settings s = true := by
  cases h with
  | closedString plain =>
    rw [Token.isString, isStringLiteral_closed fun hin => (plain _ hin).1 rfl, Bool.true_or]
  | @openString inner _ policy plain =>
    have hopen : isOpenString ('"' :: inner) = true := by
      simpa [isOpenString] using plain
    rw [Token.isString, policy, hopen, beq_self_eq_true, Bool.and_true, Bool.or_true]

/-- **A cut is classified as what it was cut for.** -/
theorem Cut.gives (h : Cut settings category s rest) (offset : Nat) :
    category.Gives s (Token.ofTrimmed settings s offset).kind := by
  have hcut := h
  cases h with
  | comment marker => exact Token.kind_of_marker marker
  | closedString => exact Token.kind_of_string hcut.isString
  | openString => exact Token.kind_of_string hcut.isString
  | integer nonempty digits =>
    exact Token.kind_of_number (beginsWith_of_forall nonempty digits)
      (isNumber_digits digits nonempty)
  | decimal nonempty digits nonemptyFraction fractionDigits =>
    refine Token.kind_of_number ?_ (isNumber_decimal digits fractionDigits nonemptyFraction)
    exact (beginsWith_append nonempty).trans (beginsWith_of_forall nonempty digits)
  | word name noMarker => exact Token.kind_of_name noMarker name
  | relational pair =>
    obtain ⟨c, d, rfl, symbol, -⟩ := exists_of_mem_pairs pair
    refine (kind_of_symbol symbol).trans (if_pos ?_)
    exact (by decide : ∀ t ∈ pairs, isOperator t = true) _ pair
  | @single c _ symbol =>
    have hsymbol : IsSymbol [c] := isSymbol_iff.mpr (Or.inr ⟨c, symbol, rfl⟩)
    change _ = _ ∨ _ = _
    rw [kind_of_symbol symbol]
    rcases hoperator : isOperator [c]
    · exact Or.inr (if_pos (hsymbol.resolve_left (by simp [hoperator])))
    · exact Or.inl rfl
  | rejectedQuote policy =>
    have hstring : Token.isString settings ['"'] = false := by
      rw [Token.isString, policy, isStringLiteral_open (List.not_mem_nil)]
      rfl
    exact Token.kind_of_other rfl hstring rfl
  | @stray c _ notBlank notQuote notDigit notName notSymbol =>
    have hsymbol : ¬ IsSymbol [c] := fun hsymbol => by
      obtain ⟨d, u, heq, hd⟩ := exists_of_isSymbol hsymbol
      obtain ⟨rfl, -⟩ : c = d ∧ [] = u := by simpa using heq
      exact notSymbol hd
    obtain ⟨hoperator, hdelimiter⟩ : isOperator [c] = false ∧ isDelimiter [c] = false := by
      simpa [IsSymbol] using hsymbol
    refine (Token.kind_of_other (t := [c]) notName
      (Token.isString_eq_false (by simpa using notQuote)) (isNumber_singleton notDigit)).trans ?_
    rw [hoperator, hdelimiter]
    rfl

/-- Only a stray character is unknown. -/
theorem Category.eq_stray_of_gives {text : Text} (h : category.Gives text .unknown) :
    category = .stray := by
  cases category with
  | word =>
    simp only [Category.Gives] at h
    split at h <;> simp at h
  | stray => rfl
  | _ => simp [Category.Gives] at h

theorem Cut.length_stray (h : Cut settings .stray s rest) : s.length = 1 := by
  cases h <;> rfl

/-! ## The tokens of a source -/

/-- **What the classifier must make of a lexeme**: nothing is trimmed, the place is kept, the kind
is one that the category calls for, the text is the lexeme's own or a reserved word, and an unknown
token is a single character. -/
structure Agrees (settings : Settings) (l : Lexeme) : Prop where
  untrimmed : l.text.takeWhile isBlank = [] ∧ l.text.trim isBlank = l.text
  offset_eq : (l.token settings).offset = l.offset
  kind_gives : l.category.Gives l.text (l.token settings).kind
  text_eq : if (l.token settings).kind = .keyword then
      (l.token settings).text = l.text.toUpper ∧ (l.token settings).text ∈ keywords
    else (l.token settings).text = l.text
  length_unknown : (l.token settings).isUnknown = true → (l.token settings).length = 1

/-- The token of a cut is made of its text as it is. -/
theorem Cut.token_placed (h : Cut settings category s rest) (p : Position) :
    (placed category s p).token settings = Token.ofTrimmed settings s p.offset :=
  Token.classify_of_trimmed h.beginsWith_isBlank h.endsWith_isBlank

theorem Cut.agrees (h : Cut settings category s rest) (p : Position) :
    Agrees settings (placed category s p) := by
  have hb := h.beginsWith_isBlank
  have he := h.endsWith_isBlank
  have htoken := h.token_placed p
  obtain ⟨hoffset, htext⟩ := Token.text_ofTrimmed settings s p.offset
  refine ⟨⟨takeWhile_append_stop (s := []) (by simp) hb, trim_eq_self hb he⟩, ?_, ?_, ?_, ?_⟩
  · rw [htoken]
    exact hoffset
  · rw [htoken]
    exact h.gives p.offset
  · rw [htoken]
    exact htext
  · rw [htoken]
    intro hunknown
    have hkind : (Token.ofTrimmed settings s p.offset).kind = .unknown := by
      simpa [Token.isUnknown] using hunknown
    have hgives := h.gives p.offset
    rw [hkind] at hgives htext
    obtain rfl := Category.eq_stray_of_gives hgives
    rw [Token.length, htext]
    exact h.length_stray

/-- **The classifier agrees with the scanner on every lexeme of every source**, so an unknown token
of any run is a single character. -/
theorem agrees_ofSource (settings : Settings) (source : Text) :
    (∀ l ∈ ofSource settings source, Agrees settings l) ∧
      ∀ {σ : Type} (sink : Sink σ) (state : σ) (tokens : List Token),
        (tokenize sink settings source state).result = .ok tokens →
          ∀ t ∈ tokens, t.isUnknown = true → t.length = 1 := by
  have hagrees : ∀ l ∈ ofSource settings source, Agrees settings l := by
    intro l hl
    obtain ⟨before, category, s, after, -, hcut, rfl⟩ :=
      (scan_ofSource settings source).exists_cut_of_mem hl
    exact hcut.agrees _
  refine ⟨hagrees, ?_⟩
  intro σ sink state tokens hrun t ht
  rw [tokens_of_tokenize hrun] at ht
  obtain ⟨l, hl, rfl⟩ := List.mem_map.mp ht
  exact (hagrees l hl).length_unknown

/-- A reserved word in lower case, and a character that begins nothing. -/
theorem agrees_ofSource_rem_at :
    Agrees {} ⟨.word, "rem".toList, 0, ⟨0, 3, 1, 1⟩⟩ ∧
      ∀ t ∈ [(⟨.unknown, ['@'], 0⟩ : Token)], t.isUnknown = true → t.length = 1 :=
  ⟨(agrees_ofSource {} "rem".toList).1 _ (by decide +kernel),
    (agrees_ofSource {} ['@']).2 Sink.silent () _ (by decide +kernel)⟩

end Lexeme

end BasicTokens
