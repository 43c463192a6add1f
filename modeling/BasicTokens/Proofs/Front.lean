import BasicTokens.Lexeme.Matcher
import BasicTokens.Proofs.Cut

/-!
# Proofs/Front — the matchers find exactly the cuts

Rule by rule, the matcher of a cut measures it and every matcher before it is silent, so the cut is
what stands in front (`Cut.front_eq`); and a text that begins with no blank has a cut
(`exists_cut`), which is the only one (`Cut.unique`).
-/

namespace BasicTokens

namespace Lexeme

open Character Grammar Text

variable {settings : Settings} {category : Category} {s t rest : Text} {c : Char}

/-! ## Silent matchers -/

theorem comment_eq_none (h : beginsWith isNameStart t = false) :
    Matcher.comment settings t = none := by
  rw [Matcher.comment, startsRemark_eq_false h]
  rfl

theorem string_eq_none (h : beginsWith (· == '"') t = false) :
    Matcher.string settings t = none := by
  unfold Matcher.string
  split
  · simp at h
  · rfl

theorem number_eq_none (h : beginsWith Char.isDigit t = false) :
    Matcher.number settings t = none := by
  have hrun : t.takeWhile Char.isDigit = [] := takeWhile_append_stop (s := []) (by simp) h
  simp [Matcher.number, hrun]

theorem word_eq_none (h : beginsWith isNameStart t = false) : Matcher.word settings t = none := by
  rcases t with _ | ⟨c, t⟩
  · rfl
  · exact if_neg (by simpa using h)

theorem relational_eq_none (h : ∀ s ∈ pairs, ¬ s <+: t) : Matcher.relational settings t = none := by
  have hnone : pairs.find? (·.isPrefixOf t) = none := by
    simpa [List.find?_eq_none] using h
  exact congrArg (Option.map Text.byteLength) hnone

theorem single_eq_none (h : beginsWith symbols.contains t = false) :
    Matcher.single settings t = none := by
  rcases t with _ | ⟨c, t⟩
  · rfl
  · exact if_neg (by simpa [symbols] using h)

/-! ## A cut is what the matchers measure -/

/-- The answer of the first matcher that has one counts. -/
theorem front_eq_of_matcher {n : Nat} {matcher : Matcher} (before after : List (Category × Matcher))
    (horder : Matcher.ordered = before ++ (category, matcher) :: after)
    (hbefore : ∀ rule ∈ before, rule.2 settings t = none) (h : matcher settings t = some n)
    (hn : 0 < n) : front settings t = (category, n) := by
  have hnone : (before.findSome? fun rule =>
      ((rule.2 settings t).filter (0 < ·)).map (rule.1, ·)) = none :=
    List.findSome?_eq_none_iff.mpr fun rule hrule => by rw [hbefore rule hrule]; rfl
  rw [front, horder, List.findSome?_append, hnone, Option.none_or, List.findSome?_cons]
  rw [show (category, matcher).2 settings t = some n from h, Option.filter_some,
    if_pos (by simpa using hn)]
  rfl

theorem front_eq_stray (h : ∀ rule ∈ Matcher.ordered, rule.2 settings t = none) :
    front settings t = (.stray, Text.byteLength (t.take 1)) := by
  have hnone : (Matcher.ordered.findSome? fun rule =>
      ((rule.2 settings t).filter (0 < ·)).map (rule.1, ·)) = none :=
    List.findSome?_eq_none_iff.mpr fun rule hrule => by rw [h rule hrule]; rfl
  rw [front, hnone]
  rfl

/-- The marker stands in the comment's own text. -/
theorem comment_marker (marker : startsRemark settings.caseInsensitiveRemarks s = true)
    (inLine : ∀ c ∈ s, isLineEnd c = false) (trimmed : endsWith isBlank s = false)
    (tail : ∀ c ∈ rest.line, isBlank c = true) :
    Matcher.comment settings (s ++ rest) = some s.byteLength := by
  have hmarker := startsRemark_append_of_startsRemark marker rest
  rw [Matcher.comment, if_pos hmarker, line_append inLine, trimEnd_append trimmed tail]

/-- The characters between two quotes on a line. -/
def isPlain (c : Char) : Bool := c != '"' && !isLineEnd c

theorem string_quote (body : Text) :
    Matcher.string settings ('"' :: body) =
      if (body.drop (body.takeWhile isPlain).length).head? = some '"' then
        some (byteLength (body.takeWhile isPlain) + 2)
      else match settings.unterminatedStrings with
        | .reject => none
        | .extendToLineEnd =>
          some (1 + byteLength (trimEnd isBlank (body.takeWhile isPlain))) := rfl

theorem string_closed {inner : Text} (plain : ∀ c ∈ inner, c ≠ '"' ∧ isLineEnd c = false) :
    Matcher.string settings ('"' :: (inner ++ ['"']) ++ rest)
      = some (byteLength ('"' :: (inner ++ ['"']))) := by
  have hrun : (inner ++ '"' :: rest).takeWhile isPlain = inner :=
    takeWhile_append_stop (fun c hc => by simpa [isPlain] using plain c hc) rfl
  have hassoc : '"' :: (inner ++ ['"']) ++ rest = '"' :: (inner ++ '"' :: rest) := by simp
  have hsize : byteLength ('"' :: (inner ++ ['"'])) = inner.byteLength + 2 := by
    rw [byteLength_cons, byteLength_append, byteLength_cons, byteLength_nil,
      show ('"' : Char).utf8Size = 1 from rfl]
    omega
  rw [hassoc, string_quote, hrun, if_pos (by simp), hsize]

/-- Without a second quote on the line, the policy decides. -/
theorem string_unclosed {body : Text} (h : '"' ∉ body.line) :
    Matcher.string settings ('"' :: body) = match settings.unterminatedStrings with
      | .reject => none
      | .extendToLineEnd => some (1 + byteLength (trimEnd isBlank body.line)) := by
  obtain ⟨s, u, rfl, hs, hu⟩ := exists_run (fun c => !isLineEnd c) body
  have hline : (s ++ u).line = s := takeWhile_append_stop hs hu
  have hrun : (s ++ u).takeWhile isPlain = s := by
    refine takeWhile_append_stop (fun c hc => ?_)
      (beginsWith_eq_false_of_imp hu fun c hc => (Bool.and_eq_true_iff.mp hc).2)
    have hquote : c ≠ '"' := fun hq => h (by rwa [hline, ← hq])
    simpa [isPlain, hquote] using hs c hc
  have hnext : u.head? ≠ some '"' := by
    rcases u with _ | ⟨c, u⟩
    · simp
    · intro hc
      obtain rfl : c = '"' := by simpa using hc
      simp [isLineEnd] at hu
  rw [string_quote, hrun, List.drop_left, if_neg hnext, hline]

theorem string_open {inner : Text} (policy : settings.unterminatedStrings = .extendToLineEnd)
    (plain : ∀ c ∈ inner, c ≠ '"' ∧ isLineEnd c = false) (trimmed : endsWith isBlank inner = false)
    (tail : ∀ c ∈ rest.line, isBlank c = true) :
    Matcher.string settings ('"' :: inner ++ rest) = some (byteLength ('"' :: inner)) := by
  have hline : (inner ++ rest).line = inner ++ rest.line := line_append fun c hc => (plain c hc).2
  rw [List.cons_append, string_unclosed (quote_not_mem_line plain tail), policy, hline,
    trimEnd_append trimmed tail]
  rfl

theorem number_integer (nonempty : s ≠ []) (digits : ∀ c ∈ s, c.isDigit = true)
    (stop : beginsWith Char.isDigit rest = false) (noFraction : Matcher.fraction rest = []) :
    Matcher.number settings (s ++ rest) = some s.byteLength := by
  have hrun : (s ++ rest).takeWhile Char.isDigit = s := takeWhile_append_stop digits stop
  simp [Matcher.number, hrun, nonempty, noFraction]

theorem number_decimal {u : Text} (nonempty : s ≠ []) (digits : ∀ c ∈ s, c.isDigit = true)
    (nonemptyFraction : u ≠ []) (fractionDigits : ∀ c ∈ u, c.isDigit = true)
    (stop : beginsWith Char.isDigit rest = false) :
    Matcher.number settings (s ++ '.' :: u ++ rest) = some (byteLength (s ++ '.' :: u)) := by
  have hassoc : s ++ '.' :: u ++ rest = s ++ '.' :: (u ++ rest) := by simp
  have hrun : (s ++ '.' :: (u ++ rest)).takeWhile Char.isDigit = s :=
    takeWhile_append_stop digits rfl
  have hfraction : Matcher.fraction ('.' :: (u ++ rest)) = u :=
    takeWhile_append_stop fractionDigits stop
  have hsize : byteLength (s ++ '.' :: u) = s.byteLength + 1 + u.byteLength := by
    rw [byteLength_append, byteLength_cons, show ('.' : Char).utf8Size = 1 from rfl, Nat.add_assoc]
  rw [hassoc, hsize]
  simp [Matcher.number, hrun, nonempty, hfraction, nonemptyFraction]

/-- A name has as many bytes as characters. -/
theorem byteLength_name (name : isIdentifier s = true) : byteLength s = s.length :=
  byteLength_eq_length fun c hc => utf8Size_of_isNamePart ((isIdentifier_iff.mp name).2 c hc)

theorem word_name (name : isIdentifier s = true) (stop : beginsWith isNamePart rest = false) :
    Matcher.word settings (s ++ rest) = some s.byteLength := by
  rw [byteLength_name name]
  rcases s with _ | ⟨c, s⟩
  · simp [isIdentifier] at name
  · obtain ⟨hstart, hpart⟩ := isIdentifier_iff.mp name
    have hrun : (s ++ rest).takeWhile isNamePart = s :=
      takeWhile_append_stop (fun d hd => hpart d (by simp [hd])) stop
    rw [List.cons_append, Matcher.word, if_pos (by simpa using hstart), hrun, List.length_cons,
      Nat.add_comm]

/-- Two relations of which one begins the other are the same. -/
theorem relational_pair (pair : s ∈ pairs) :
    Matcher.relational settings (s ++ rest) = some s.byteLength := by
  simp only [pairs, List.mem_cons, List.not_mem_nil, or_false] at pair
  rcases pair with rfl | rfl | rfl <;> rfl

theorem single_symbol (symbol : c ∈ symbols) :
    Matcher.single settings (c :: rest) = some (byteLength [c]) := by
  have hsize : c.utf8Size = 1 := by
    simpa using List.all_eq_true.mp (by decide : symbols.all (·.utf8Size == 1) = true) c symbol
  rw [byteLength_cons, byteLength_nil, hsize]
  exact if_pos (by simpa [symbols] using symbol)

/-- Before a digit, neither a marker nor a quote is found. -/
theorem none_before_number (ht : beginsWith Char.isDigit t = true) :
    ∀ rule ∈ [(Category.comment, Matcher.comment), (.string, Matcher.string)],
      rule.2 settings t = none := by
  obtain ⟨c, t, rfl, hc⟩ := exists_cons_of_beginsWith ht
  have hquote : c ≠ '"' := ne_quote_of_isNamePart (isNamePart_of_isDigit hc)
  simp [comment_eq_none (t := c :: t) (isNameStart_of_isDigit hc),
    string_eq_none (t := c :: t) (by simpa using hquote)]

/-- Before a letter that does not begin the marker, neither a quote nor a digit is found. -/
theorem none_before_word (ht : beginsWith isNameStart t = true)
    (hmarker : startsRemark settings.caseInsensitiveRemarks t = false) :
    ∀ rule ∈ [(Category.comment, Matcher.comment), (.string, Matcher.string),
      (.number, Matcher.number)], rule.2 settings t = none := by
  obtain ⟨c, t, rfl, hc⟩ := exists_cons_of_beginsWith ht
  have hquote : c ≠ '"' := ne_quote_of_isNamePart (isNamePart_of_isNameStart hc)
  simp [Matcher.comment, hmarker, string_eq_none (t := c :: t) (by simpa using hquote),
    number_eq_none (t := c :: t) (isDigit_of_isNameStart hc)]

/-- Before any other character, none of these nor a name is found. -/
theorem none_before_other (settings : Settings) (rest : Text) (hname : isNameStart c = false)
    (hquote : c ≠ '"') (hdigit : c.isDigit = false) :
    ∀ rule ∈ [(Category.comment, Matcher.comment), (.string, Matcher.string),
      (.number, Matcher.number), (.word, Matcher.word)], rule.2 settings (c :: rest) = none := by
  simp [comment_eq_none (t := c :: rest) hname,
    string_eq_none (t := c :: rest) (by simpa using hquote),
    number_eq_none (t := c :: rest) hdigit, word_eq_none (t := c :: rest) hname]

/-- A symbol is found after all of these. -/
theorem none_before_symbol (settings : Settings) (rest : Text) (symbol : c ∈ symbols) :
    ∀ rule ∈ [(Category.comment, Matcher.comment), (.string, Matcher.string),
      (.number, Matcher.number), (.word, Matcher.word)], rule.2 settings (c :: rest) = none :=
  none_before_other settings rest (not_of_mem_symbols (by decide) symbol)
    (by simpa using not_of_mem_symbols (p := (· == '"')) (by decide) symbol)
    (not_of_mem_symbols (by decide) symbol)

theorem relational_eq_none_of_not_symbol (rest : Text) (h : c ∉ symbols) :
    Matcher.relational settings (c :: rest) = none := by
  refine relational_eq_none fun s hs hprefix => h ?_
  obtain ⟨d, e, rfl, hd, -⟩ := exists_of_mem_pairs hs
  obtain ⟨u, hu⟩ := hprefix
  obtain ⟨rfl, -⟩ : d = c ∧ e :: u = rest := by simpa using hu
  exact hd

/-- A symbol whose next character does not complete a relation is in front of none. -/
theorem relational_eq_none_of_alone
    (alone : beginsWith (fun d => pairs.contains [c, d]) rest = false) :
    Matcher.relational settings (c :: rest) = none := by
  refine relational_eq_none ?_
  intro s hs hprefix
  obtain ⟨d, e, rfl, -, -⟩ := exists_of_mem_pairs hs
  obtain ⟨u, hu⟩ := hprefix
  obtain ⟨rfl, rfl⟩ : d = c ∧ e :: u = rest := by simpa using hu
  exact absurd hs (by simpa using alone)

/-- **A cut is found**: the first matcher with an answer is the one of its category, and it measures
the text cut. -/
theorem Cut.front_eq (h : Cut settings category s rest) :
    front settings (s ++ rest) = (category, s.byteLength) := by
  have hpos : 0 < s.byteLength := byteLength_pos h.ne_nil
  cases h with
  | comment marker inLine trimmed tail =>
    exact front_eq_of_matcher [] _ rfl (by simp)
      (comment_marker marker inLine trimmed tail) hpos
  | closedString plain =>
    exact front_eq_of_matcher [(.comment, Matcher.comment)] _ rfl
      (by simp [comment_eq_none (t := '"' :: _) rfl]) (string_closed plain) hpos
  | @openString inner _ policy plain trimmed tail =>
    exact front_eq_of_matcher [(.comment, Matcher.comment)] _ rfl
      (by simp [comment_eq_none (t := '"' :: (inner ++ rest)) rfl])
      (string_open policy plain trimmed tail) hpos
  | integer nonempty digits stop noFraction =>
    have hdigit : beginsWith Char.isDigit (s ++ rest) = true :=
      (beginsWith_append nonempty).trans (beginsWith_of_forall nonempty digits)
    exact front_eq_of_matcher _ [_, _, _] rfl (none_before_number hdigit)
      (number_integer nonempty digits stop noFraction) hpos
  | @decimal s u _ nonempty digits nonemptyFraction fractionDigits stop =>
    have hdigit : beginsWith Char.isDigit (s ++ '.' :: u ++ rest) = true := by
      rw [List.append_assoc, beginsWith_append nonempty]
      exact beginsWith_of_forall nonempty digits
    exact front_eq_of_matcher _ [_, _, _] rfl (none_before_number hdigit)
      (number_decimal nonempty digits nonemptyFraction fractionDigits stop) hpos
  | word name noMarker stop =>
    have hstart : beginsWith isNameStart (s ++ rest) = true :=
      (beginsWith_append (isIdentifier_ne_nil name)).trans (isIdentifier_iff.mp name).1
    exact front_eq_of_matcher _ [_, _] rfl
      (none_before_word hstart (startsRemark_append_eq_false noMarker stop)) (word_name name stop)
      hpos
  | relational pair =>
    obtain ⟨c, d, rfl, symbol, -⟩ := exists_of_mem_pairs pair
    exact front_eq_of_matcher _ [_] rfl (none_before_symbol settings _ symbol)
      (relational_pair pair) hpos
  | @single c _ symbol alone =>
    have hbefore : ∀ rule ∈ [(Category.comment, Matcher.comment), (.string, Matcher.string),
        (.number, Matcher.number), (.word, Matcher.word), (.relational, Matcher.relational)],
        rule.2 settings (c :: rest) = none := by
      have hsymbol := none_before_symbol settings rest symbol
      simp_all [relational_eq_none_of_alone alone]
    exact front_eq_of_matcher _ [] rfl hbefore (single_symbol symbol) hpos
  | rejectedQuote policy unclosed =>
    have hstring : Matcher.string settings ('"' :: rest) = none := by
      rw [string_unclosed unclosed, policy]
    refine front_eq_stray ?_
    simp [Matcher.ordered, hstring, comment_eq_none (t := '"' :: rest) rfl,
      number_eq_none (t := '"' :: rest) rfl, word_eq_none (t := '"' :: rest) rfl,
      relational_eq_none_of_not_symbol (c := '"') rest (by decide),
      single_eq_none (t := '"' :: rest) rfl]
  | @stray c _ notBlank notQuote notDigit notName notSymbol =>
    have hbefore := none_before_other settings rest notName notQuote notDigit
    have hsingle : Matcher.single settings (c :: rest) = none :=
      single_eq_none (by simpa using notSymbol)
    refine front_eq_stray ?_
    simp_all [Matcher.ordered, relational_eq_none_of_not_symbol rest notSymbol]

/-! ## Every text has a cut -/

/-- From the marker to the end of the line. -/
theorem exists_cut_comment (h : startsRemark settings.caseInsensitiveRemarks t = true) :
    ∃ s rest, t = s ++ rest ∧ Cut settings .comment s rest := by
  obtain ⟨m, u, rfl, hlen, hmarker, hm⟩ := exists_marker h
  obtain ⟨s, rest, rfl, hs, htrim, htail⟩ := exists_trimmed_line u
  have hm' : ∀ c ∈ m, isNamePart c = true := fun c hc => isNamePart_of_isNameStart (hm c hc)
  have hinLine : ∀ c ∈ m ++ s, isLineEnd c = false := fun c hc =>
    (List.mem_append.mp hc).elim (fun h => isLineEnd_of_isNamePart (hm' c h)) (hs c)
  have htrimmed : endsWith isBlank (m ++ s) = false := by
    rcases s.eq_nil_or_concat' with rfl | ⟨s', c, rfl⟩
    · rw [List.append_nil]
      exact endsWith_eq_false_of_forall fun c hc => isBlank_of_isNamePart (hm' c hc)
    · rwa [endsWith_append (by simp)]
  refine ⟨m ++ s, rest, (List.append_assoc ..).symm, .comment ?_ hinLine htrimmed htail⟩
  rw [startsRemark_append hlen.ge, hmarker]

/-- From a quote to the next one, or as the policy says. -/
theorem exists_cut_quote (body : Text) :
    ∃ category s rest, '"' :: body = s ++ rest ∧ Cut settings category s rest := by
  obtain ⟨inner, u, rfl, hinner, hu⟩ := exists_run isPlain body
  have hplain : ∀ c ∈ inner, c ≠ '"' ∧ isLineEnd c = false := fun c hc => by
    simpa [isPlain] using hinner c hc
  by_cases hq : u.head? = some '"'
  · obtain ⟨v, rfl⟩ := List.head?_eq_some_iff.mp hq
    exact ⟨.string, '"' :: (inner ++ ['"']), v, by simp, .closedString hplain⟩
  · have hline : (inner ++ u).line = inner := by
      refine takeWhile_append_stop (fun c hc => by simp [hplain c hc]) ?_
      rcases u with _ | ⟨c, u⟩
      · rfl
      · have hc : c ≠ '"' := by simpa using hq
        simpa [isPlain, hc] using hu
    have hunclosed : '"' ∉ (inner ++ u).line := fun h => (hplain _ (hline ▸ h)).1 rfl
    rcases hpolicy : settings.unterminatedStrings
    · exact ⟨.stray, ['"'], inner ++ u, rfl, .rejectedQuote hpolicy hunclosed⟩
    · obtain ⟨s, rest, heq, hs, htrim, htail⟩ := exists_trimmed_line (inner ++ u)
      have hplain' : ∀ c ∈ s, c ≠ '"' ∧ isLineEnd c = false := by
        refine fun c hc => ⟨fun h => hunclosed ?_, hs c hc⟩
        rw [heq, line_append hs]
        exact List.mem_append_left _ (h ▸ hc)
      exact ⟨.string, '"' :: s, rest, by rw [heq]; rfl, .openString hpolicy hplain' htrim htail⟩

/-- Digits, and a fraction if there is one. -/
theorem exists_cut_digit (h : beginsWith Char.isDigit t = true) :
    ∃ s rest, t = s ++ rest ∧ Cut settings .number s rest := by
  obtain ⟨s, u, rfl, hs, hu⟩ := exists_run Char.isDigit t
  have hne : s ≠ [] := by
    rintro rfl
    exact absurd h (by simpa using hu)
  by_cases hf : Matcher.fraction u = []
  · exact ⟨s, u, rfl, .integer hne hs hu hf⟩
  · unfold Matcher.fraction at hf
    split at hf
    · rename_i v
      obtain ⟨f, w, rfl, hfd, hw⟩ := exists_run Char.isDigit v
      rw [takeWhile_append_stop hfd hw] at hf
      exact ⟨s ++ '.' :: f, w, by simp, .decimal hne hs hf hfd hw⟩
    · exact absurd rfl hf

/-- What begins like a name begins with one, up to its last character. -/
theorem exists_name (h : beginsWith isNameStart t = true) :
    ∃ s rest, t = s ++ rest ∧ isIdentifier s = true ∧ beginsWith isNamePart rest = false := by
  obtain ⟨s, u, rfl, hs, hu⟩ := exists_run isNamePart t
  have hstart : beginsWith isNameStart s = true := by
    rcases s with _ | ⟨c, s⟩
    · exact absurd (beginsWith_eq_false_of_imp hu fun c => isNamePart_of_isNameStart)
        (by simpa using h)
    · exact h
  exact ⟨s, u, rfl, isIdentifier_iff.mpr ⟨hstart, hs⟩, hu⟩

/-- A name that does not begin with the marker. -/
theorem exists_cut_name (h : beginsWith isNameStart t = true)
    (hmarker : startsRemark settings.caseInsensitiveRemarks t = false) :
    ∃ s rest, t = s ++ rest ∧ Cut settings .word s rest := by
  obtain ⟨s, u, rfl, hname, hu⟩ := exists_name h
  refine ⟨s, u, rfl, .word hname ?_ hu⟩
  rw [Bool.eq_false_iff]
  intro hr
  exact absurd (startsRemark_append_of_startsRemark hr u) (by simp [hmarker])

/-- A relation if two characters make one, or else a single symbol. -/
theorem exists_cut_symbol (h : c ∈ symbols) :
    ∃ category s rest, c :: t = s ++ rest ∧ Cut settings category s rest := by
  rcases hpair : beginsWith (fun d => pairs.contains [c, d]) t
  · exact ⟨.single, [c], t, rfl, .single h hpair⟩
  · obtain ⟨d, t, rfl, hd⟩ := exists_cons_of_beginsWith hpair
    exact ⟨.relational, [c, d], t, rfl, .relational (by simpa using hd)⟩

/-- **Every text that begins with no blank has a lexeme at its front.** -/
theorem exists_cut (settings : Settings) (hne : t ≠ []) (hblank : beginsWith isBlank t = false) :
    ∃ category s rest, t = s ++ rest ∧ Cut settings category s rest := by
  rcases hmarker : startsRemark settings.caseInsensitiveRemarks t
  · obtain ⟨c, t, rfl⟩ := List.exists_cons_of_ne_nil hne
    by_cases hquote : c = '"'
    · exact hquote ▸ exists_cut_quote t
    rcases hdigit : c.isDigit
    · rcases hname : isNameStart c
      · by_cases hsymbol : c ∈ symbols
        · exact exists_cut_symbol hsymbol
        · exact ⟨.stray, [c], t, rfl, .stray hblank hquote hdigit hname hsymbol⟩
      · exact ⟨.word, exists_cut_name (t := c :: t) hname hmarker⟩
    · exact ⟨.number, exists_cut_digit (t := c :: t) hdigit⟩
  · exact ⟨.comment, exists_cut_comment hmarker⟩

/-- A text is cut in one way. -/
theorem Cut.unique {category' : Category} {s' rest' : Text} (h : Cut settings category s rest)
    (h' : Cut settings category' s' rest') (heq : s ++ rest = s' ++ rest') :
    category = category' ∧ s = s' ∧ rest = rest' := by
  obtain ⟨hcategory, hsize⟩ := Prod.mk.inj (h.front_eq.symm.trans (heq ▸ h'.front_eq))
  have hlen : s.length = s'.length := by
    rw [← countWithin_byteLength_append s rest, heq, hsize, countWithin_byteLength_append]
  exact ⟨hcategory, List.append_inj heq hlen⟩

end Lexeme

end BasicTokens
