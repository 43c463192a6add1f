import BasicTokens.Grammar
import BasicTokens.Proofs.Alphabet

/-!
# Proofs/Recognizers — which whole texts the grammar accepts

Each recognizer is put in a declarative form, over the first character and the runs of a text, and
told apart from the others by that character.
-/

namespace BasicTokens

namespace Grammar

open Character Text

variable {s t : Text} {ignoreCase : Bool}

/-! ## The comment marker -/

/-- The marker is found within the first three characters. -/
theorem startsRemark_append (hs : 3 ≤ s.length) :
    startsRemark ignoreCase (s ++ t) = startsRemark ignoreCase s := by
  have htake : (s ++ t).take remark.length = s.take remark.length :=
    List.take_append_of_le_length hs
  simp only [startsRemark, htake]

/-- Whatever its case, the marker is written in three upper-case letters once it is in upper
case. -/
theorem toUpper_take_of_startsRemark (h : startsRemark ignoreCase t = true) :
    Text.toUpper (t.take 3) = remark := by
  have htake : remark.length = 3 := rfl
  have hupper : remark.toUpper = remark := by decide
  cases ignoreCase
  · simp only [startsRemark, htake, Bool.false_eq_true, if_false, beq_iff_eq] at h
    rw [h, hupper]
  · simpa [startsRemark, htake, equalsIgnoringCase, hupper] using h

/-- **A text that starts with the marker is three letters and more text.** -/
theorem exists_marker (h : startsRemark ignoreCase t = true) :
    ∃ m u, t = m ++ u ∧ m.length = 3 ∧ startsRemark ignoreCase m = true ∧
      ∀ c ∈ m, isNameStart c = true := by
  have hupper := toUpper_take_of_startsRemark h
  have hlen : (t.take 3).length = 3 := by
    have := congrArg List.length hupper
    rwa [Text.toUpper, List.length_map] at this
  refine ⟨t.take 3, t.drop 3, (List.take_append_drop 3 t).symm, hlen, ?_, ?_⟩
  · rw [← h, ← startsRemark_append (t := t.drop 3) hlen.ge, List.take_append_drop]
  · intro c hc
    refine isNameStart_of_toUpper ?_
    have hmem : c.toUpper ∈ remark := hupper ▸ List.mem_map_of_mem hc
    exact List.all_eq_true.mp (by decide : remark.all Char.isUpper = true) _ hmem

theorem beginsWith_of_startsRemark (h : startsRemark ignoreCase t = true) :
    beginsWith isNameStart t = true := by
  obtain ⟨m, u, rfl, hlen, -, hm⟩ := exists_marker h
  obtain ⟨c, m, rfl⟩ := List.exists_cons_of_length_pos (by omega : 0 < m.length)
  exact hm c (by simp)

theorem startsRemark_eq_false (h : beginsWith isNameStart t = false) :
    startsRemark ignoreCase t = false := by
  rw [Bool.eq_false_iff]
  intro hr
  exact absurd (beginsWith_of_startsRemark hr) (by simp [h])

theorem startsRemark_append_of_startsRemark (h : startsRemark ignoreCase s = true) (t : Text) :
    startsRemark ignoreCase (s ++ t) = true := by
  obtain ⟨m, u, rfl, hlen, -, -⟩ := exists_marker h
  rwa [startsRemark_append (by simp [hlen])]

/-- A name without the marker has none with more text after it either. -/
theorem startsRemark_append_eq_false (hs : startsRemark ignoreCase s = false)
    (ht : beginsWith isNamePart t = false) : startsRemark ignoreCase (s ++ t) = false := by
  rw [Bool.eq_false_iff]
  intro hr
  obtain ⟨m, u, heq, hlen, hmarker, hm⟩ := exists_marker hr
  rcases List.append_eq_append_iff.mp heq with ⟨_ | ⟨d, a⟩, rfl, rfl⟩ | ⟨b, rfl, rfl⟩
  · rw [List.append_nil] at hmarker
    exact absurd hmarker (by simp [hs])
  · have hd : isNamePart d = true := isNamePart_of_isNameStart (hm d (by simp))
    exact absurd hd (by simpa using ht)
  · rw [startsRemark_append hlen.ge] at hs
    exact absurd hmarker (by simp [hs])

/-! ## Names and reserved words -/

theorem isIdentifier_iff :
    isIdentifier t = true ↔ beginsWith isNameStart t = true ∧ ∀ c ∈ t, isNamePart c = true := by
  rcases t with _ | ⟨c, t⟩
  · simp [isIdentifier]
  · simp only [isIdentifier, Bool.and_eq_true, List.all_eq_true, beginsWith_cons,
      List.forall_mem_cons]
    exact ⟨fun h => ⟨h.1, isNamePart_of_isNameStart h.1, h.2⟩, fun h => ⟨h.1, h.2.2⟩⟩

theorem isIdentifier_ne_nil (h : isIdentifier t = true) : t ≠ [] := by
  rintro rfl
  simp [isIdentifier] at h

theorem isIdentifier_eq_false (h : beginsWith isNameStart t = false) : isIdentifier t = false := by
  rw [Bool.eq_false_iff]
  intro hi
  exact absurd (isIdentifier_iff.mp hi).1 (by simp [h])

/-- A reserved word is the upper case of any text that spells it. -/
theorem eq_toUpper_of_keyword? {k : Text} (h : keyword? t = some k) : k = t.toUpper := by
  have hk : k.toUpper = k :=
    (by decide : ∀ k ∈ keywords, k.toUpper = k) k (mem_keywords_of_keyword? h)
  rw [← toUpper_eq_of_keyword? h, hk]

theorem keyword?_eq_none_iff :
    keyword? t = none ↔ ∀ k ∈ keywords, equalsIgnoringCase k t = false := by
  simp [keyword?]

theorem beginsWith_of_keyword? {k : Text} (h : keyword? t = some k) :
    beginsWith isNameStart t = true := by
  have hk : beginsWith Char.isUpper t.toUpper = true := by
    rw [← eq_toUpper_of_keyword? h]
    exact (by decide : ∀ k ∈ keywords, beginsWith Char.isUpper k = true) k
      (mem_keywords_of_keyword? h)
  rcases t with _ | ⟨c, t⟩
  · exact hk
  · exact isNameStart_of_toUpper hk

theorem keyword?_eq_none (h : beginsWith isNameStart t = false) : keyword? t = none := by
  rw [Option.eq_none_iff_forall_ne_some]
  intro k hk
  exact absurd (beginsWith_of_keyword? hk) (by simp [h])

/-! ## Numbers

`digitsAndPoint` remembers only whether a digit and whether the point were seen, so a run of digits
is passed at once and what is left begins with no digit. -/

/-- A run of digits counts as one. -/
theorem digitsAndPoint_append (hs : ∀ c ∈ s, c.isDigit = true) (digitSeen pointSeen : Bool) :
    digitsAndPoint digitSeen pointSeen (s ++ t)
      = digitsAndPoint (digitSeen || !s.isEmpty) pointSeen t := by
  induction s generalizing digitSeen with
  | nil => simp
  | cons c s ih =>
    obtain ⟨hc, hs⟩ := List.forall_mem_cons.mp hs
    rw [List.cons_append, digitsAndPoint, if_pos hc, ih hs]
    simp

theorem digitsAndPoint_digits (hs : ∀ c ∈ s, c.isDigit = true) (digitSeen pointSeen : Bool) :
    digitsAndPoint digitSeen pointSeen s = (digitSeen || !s.isEmpty) := by
  simpa [digitsAndPoint] using digitsAndPoint_append (t := []) hs digitSeen pointSeen

/-- Once the point was seen, only digits may follow. -/
theorem forall_isDigit_of_digitsAndPoint {digitSeen : Bool}
    (h : digitsAndPoint digitSeen true t = true) : ∀ c ∈ t, c.isDigit = true := by
  obtain ⟨s, u, rfl, hs, hu⟩ := exists_run Char.isDigit t
  rcases u with _ | ⟨c, u⟩
  · simpa using hs
  · rw [digitsAndPoint_append hs, digitsAndPoint, if_neg (by simpa using hu)] at h
    simp at h

theorem isNumber_digits (hs : ∀ c ∈ s, c.isDigit = true) (hne : s ≠ []) : isNumber s = true := by
  have hlast : s.getLast? ≠ some '.' := fun h =>
    absurd (hs '.' (List.mem_of_getLast? h)) (by decide)
  simp [isNumber, digitsAndPoint_digits hs, hne, hlast]

theorem isNumber_decimal (hs : ∀ c ∈ s, c.isDigit = true) (ht : ∀ c ∈ t, c.isDigit = true)
    (hne : t ≠ []) : isNumber (s ++ '.' :: t) = true := by
  have hread : digitsAndPoint false false (s ++ '.' :: t) = true := by
    rw [digitsAndPoint_append hs, digitsAndPoint, if_neg (by decide), if_pos rfl,
      digitsAndPoint_digits ht]
    simp [hne]
  have hlast : (s ++ '.' :: t).getLast? ≠ some '.' := by
    rw [List.getLast?_append_of_ne_nil _ (by simp), List.getLast?_cons_of_ne_nil hne]
    exact fun h => absurd (ht '.' (List.mem_of_getLast? h)) (by decide)
  rw [isNumber, hread, Bool.true_and, bne_iff_ne]
  exact hlast

/-- **A number is a run of digits, or two runs around a point of which the second is not
empty.** -/
theorem digits_or_decimal_of_isNumber (h : isNumber t = true) :
    (t ≠ [] ∧ ∀ c ∈ t, c.isDigit = true) ∨
      ∃ s u, t = s ++ '.' :: u ∧ (∀ c ∈ s, c.isDigit = true) ∧ u ≠ [] ∧
        ∀ c ∈ u, c.isDigit = true := by
  obtain ⟨hread, hlast⟩ : digitsAndPoint false false t = true ∧ t.getLast? ≠ some '.' := by
    simpa [isNumber] using h
  obtain ⟨s, u, rfl, hs, hu⟩ := exists_run Char.isDigit t
  rcases u with _ | ⟨c, u⟩
  · rw [List.append_nil, digitsAndPoint_digits hs] at hread
    exact Or.inl ⟨by simpa using hread, by simpa using hs⟩
  · rw [digitsAndPoint_append hs, digitsAndPoint, if_neg (by simpa using hu)] at hread
    obtain ⟨rfl, hread⟩ : c = '.' ∧ digitsAndPoint (false || !s.isEmpty) true u = true := by
      simpa using hread
    refine Or.inr ⟨s, u, rfl, hs, ?_, forall_isDigit_of_digitsAndPoint hread⟩
    rintro rfl
    simp at hlast

theorem isNumber_eq_false (hdigit : beginsWith Char.isDigit t = false)
    (hpoint : beginsWith (· == '.') t = false) : isNumber t = false := by
  rw [Bool.eq_false_iff]
  intro hn
  rcases digits_or_decimal_of_isNumber hn with ⟨hne, ht⟩ | ⟨s, u, rfl, hs, -, -⟩
  · obtain ⟨c, t, rfl⟩ := List.exists_cons_of_ne_nil hne
    exact absurd (ht c (by simp)) (by simpa using hdigit)
  · rcases s with _ | ⟨c, s⟩
    · simp at hpoint
    · exact absurd (hs c (by simp)) (by simpa using hdigit)

/-- One character other than a digit is no number, be it a point. -/
theorem isNumber_singleton {c : Char} (h : c.isDigit = false) : isNumber [c] = false := by
  rw [Bool.eq_false_iff]
  intro hn
  rcases digits_or_decimal_of_isNumber hn with ⟨-, hall⟩ | ⟨t, u, heq, -, hne, -⟩
  · exact absurd (hall c (by simp)) (by simp [h])
  · have hlen := congrArg List.length heq
    have hpos := List.length_pos_iff.mpr hne
    simp only [List.length_append, List.length_cons, List.length_nil] at hlen
    omega

/-! ## Strings -/

theorem isStringLiteral_closed (hs : '"' ∉ s) : isStringLiteral ('"' :: (s ++ ['"'])) = true := by
  simp [isStringLiteral, hs]

/-- Two quotes at least. -/
theorem isStringLiteral_open (hs : '"' ∉ s) : isStringLiteral ('"' :: s) = false := by
  have hlast : s.getLast? ≠ some '"' := fun h => hs (List.mem_of_getLast? h)
  simp [isStringLiteral, hlast]

theorem isStringLiteral_eq_false (h : beginsWith (· == '"') t = false) :
    isStringLiteral t = false := by
  unfold isStringLiteral
  split
  · simp at h
  · rfl

theorem isOpenString_eq_false (h : beginsWith (· == '"') t = false) : isOpenString t = false := by
  unfold isOpenString
  split
  · simp at h
  · rfl

end Grammar

end BasicTokens
