import Mathlib.Logic.Function.Iterate
import BasicTokens.Proofs.Boundaries
import BasicTokens.Proofs.Scan

/-!
# Proofs/Progress — a matcher measures what stands in front, so every step gets on

    "é" …      quote, character, quote: 1 + 2 + 1 bytes, and a boundary after them

Every matcher finds a text at the front, not an empty one, and answers with its bytes, however it
counts them (`usable_of_mem_ordered`).  Such a length is positive, so no answer is discarded, and
ends at a boundary, so a move by as many bytes ends there too (`Usable.byte_advanceBytes`).  Every
lexeme takes a character that is no blank, and the requests to a scanner are answered with its
lexemes in turn (`Scanner.next?_iterate_onward`), so there is a first one without an answer.
-/

namespace BasicTokens

open Character Grammar Text

namespace Lexeme

variable {settings : Settings} {s t rest : Text} {p : Char → Bool} {n : Nat}

/-! ## Lengths in front of a text -/

/-- **A length that can be used**: there is something to take, it is there, and it ends at a
boundary. -/
structure Usable (t : Text) (n : Nat) : Prop where
  pos : 0 < n
  le : n ≤ t.byteLength
  isBoundary : t.IsBoundary n

/-- The bytes of what stands in front can be used. -/
theorem usable_byteLength (hs : s ≠ []) (rest : Text) : Usable (s ++ rest) s.byteLength where
  pos := byteLength_pos hs
  le := by rw [byteLength_append]; exact Nat.le_add_right _ _
  isBoundary := isBoundary_byteLength_append s rest

/-- **A move by a length that can be used ends exactly there.** -/
theorem Usable.byte_advanceBytes {k : Cursor} (h : Usable k.rest n) :
    (k.advanceBytes n).position.byte = k.position.byte + n := by
  obtain ⟨s, ⟨u, hrest⟩, rfl⟩ := h.isBoundary
  rw [Cursor.advanceBytes, Cursor.byte_forward, ← hrest, countWithin_byteLength_append, List.take_left]

/-! ## What the matchers answer -/

/-- A matcher that measures what stands in front answers with nothing else. -/
theorem usable_of_measured {matcher : Matcher} (hs : s ≠ [])
    (hmeasured : matcher settings (s ++ rest) = some s.byteLength)
    (h : matcher settings (s ++ rest) = some n) : Usable (s ++ rest) n := by
  obtain rfl : s.byteLength = n := Option.some.inj (hmeasured.symm.trans h)
  exact usable_byteLength hs rest

/-- A matcher that is silent before some texts answers before the others only. -/
theorem beginsWith_of_answer {matcher : Matcher}
    (hsilent : beginsWith p t = false → matcher settings t = none)
    (h : matcher settings t = some n) : beginsWith p t = true := by
  rw [← Bool.not_eq_false]
  intro hbegins
  rw [hsilent hbegins] at h
  exact absurd h (Option.some_ne_none n).symm

/-- **The marker is looked for in the first three bytes**, and is not there if they cut a character.
-/
theorem startsRemark_eq_takeBytes? (ignoreCase : Bool) (t : Text) :
    startsRemark ignoreCase t = (t.takeBytes? 3).any (startsRemark ignoreCase) := by
  rw [Bool.eq_iff_iff, Option.any_eq_true]
  constructor
  · intro h
    obtain ⟨m, u, rfl, hlength, hmarker, hm⟩ := exists_marker h
    have hbytes : byteLength m = 3 := (byteLength_eq_length fun c hc =>
      utf8Size_of_isNamePart (isNamePart_of_isNameStart (hm c hc))).trans hlength
    exact ⟨m, hbytes ▸ takeBytes?_byteLength_append m u, hmarker⟩
  · rintro ⟨m, hm, hmarker⟩
    obtain ⟨⟨u, rfl⟩, -⟩ := prefix_of_takeBytes? hm
    exact startsRemark_append_of_startsRemark hmarker u

/-- Trimming does not take the marker away. -/
theorem usable_comment (h : Matcher.comment settings t = some n) : Usable t n := by
  have hmarker : startsRemark settings.caseInsensitiveRemarks t = true := by
    by_contra hno
    rw [Matcher.comment, if_neg hno] at h
    exact absurd h (Option.some_ne_none n).symm
  obtain ⟨s, rest, rfl, hcut⟩ := exists_cut_comment hmarker
  have hne := hcut.ne_nil
  cases hcut with
  | comment marker inLine trimmed tail =>
    exact usable_of_measured hne (comment_marker marker inLine trimmed tail) h

/-- What is trimmed away stands after the quote. -/
theorem usable_string (h : Matcher.string settings t = some n) : Usable t n := by
  obtain ⟨c, body, rfl, hc⟩ := exists_cons_of_beginsWith (beginsWith_of_answer string_eq_none h)
  obtain rfl : c = '"' := by simpa using hc
  obtain ⟨inner, u, rfl, hinner, hu⟩ := exists_run isPlain body
  by_cases hquote : u.head? = some '"'
  · obtain ⟨v, rfl⟩ := List.head?_eq_some_iff.mp hquote
    have hplain : ∀ c ∈ inner, c ≠ '"' ∧ isLineEnd c = false := fun c hc => by
      simpa [isPlain] using hinner c hc
    have hwhole : '"' :: (inner ++ '"' :: v) = '"' :: (inner ++ ['"']) ++ v := by simp
    rw [hwhole] at h ⊢
    exact usable_of_measured (List.cons_ne_nil _ _) (string_closed hplain) h
  · obtain ⟨s, w, rfl, hs, hw⟩ := exists_trimEnd isBlank inner
    rw [string_quote, takeWhile_append_stop hinner hu, List.drop_left, if_neg hquote,
      trimEnd_append hs hw] at h
    have hsize : byteLength ('"' :: s) = n := by
      split at h
      · exact absurd h (Option.some_ne_none n).symm
      · exact Option.some.inj h
    rw [List.append_assoc]
    exact hsize ▸ usable_byteLength (List.cons_ne_nil '"' s) (w ++ u)

theorem usable_number (h : Matcher.number settings t = some n) : Usable t n := by
  obtain ⟨s, rest, rfl, hcut⟩ : ∃ s rest, t = s ++ rest ∧ Cut settings .number s rest :=
    exists_cut_digit (beginsWith_of_answer number_eq_none h)
  have hne := hcut.ne_nil
  cases hcut with
  | integer nonempty digits stop noFraction =>
    exact usable_of_measured hne (number_integer nonempty digits stop noFraction) h
  | decimal nonempty digits nonemptyFraction fractionDigits stop =>
    exact usable_of_measured hne
      (number_decimal nonempty digits nonemptyFraction fractionDigits stop) h

/-- A name can be measured in characters as well: there are as many as bytes. -/
theorem usable_word (h : Matcher.word settings t = some n) : Usable t n ∧ countWithin n t = n := by
  obtain ⟨s, rest, rfl, hname, hstop⟩ := exists_name (beginsWith_of_answer word_eq_none h)
  refine ⟨usable_of_measured (isIdentifier_ne_nil hname) (word_name hname hstop) h, ?_⟩
  rw [word_name hname hstop] at h
  obtain rfl := Option.some.inj h
  rw [countWithin_byteLength_append, byteLength_name hname]

theorem usable_relational (h : Matcher.relational settings t = some n) : Usable t n := by
  obtain ⟨s, hs, rfl⟩ := Option.map_eq_some_iff.mp h
  have hfront : s.isPrefixOf t = true := by simpa using List.find?_some hs
  obtain ⟨rest, rfl⟩ := List.isPrefixOf_iff_prefix.mp hfront
  obtain ⟨c, d, rfl, -, -⟩ := exists_of_mem_pairs (List.mem_of_find?_eq_some hs)
  exact usable_byteLength (List.cons_ne_nil c [d]) rest

theorem usable_single (h : Matcher.single settings t = some n) : Usable t n := by
  obtain ⟨c, rest, rfl, hc⟩ := exists_cons_of_beginsWith (beginsWith_of_answer single_eq_none h)
  have hsymbol : c ∈ symbols := by simpa using hc
  exact usable_of_measured (s := [c]) (List.cons_ne_nil c []) (single_symbol hsymbol) h

/-- **Every matcher answers with a length that can be used.** -/
theorem usable_of_mem_ordered :
    ∀ rule ∈ Matcher.ordered, rule.2 settings t = some n → Usable t n := by
  simp only [Matcher.ordered, List.forall_mem_cons]
  exact ⟨usable_comment, usable_string, usable_number, fun h => (usable_word h).1,
    usable_relational, usable_single, fun rule hrule => absurd hrule List.not_mem_nil⟩

/-- …so no answer is discarded. -/
theorem filter_of_mem_ordered {rule : Category × Matcher} (hrule : rule ∈ Matcher.ordered) :
    (rule.2 settings t).filter (0 < ·) = rule.2 settings t := by
  rcases h : rule.2 settings t with _ | n
  · rfl
  · exact Option.filter_eq_some_iff.mpr
      ⟨rfl, decide_eq_true (usable_of_mem_ordered rule hrule h).pos⟩

/-- **What is taken from the front of a text can be taken**, whether or not a matcher answers. -/
theorem usable_front (settings : Settings) (ht : t ≠ []) : Usable t (front settings t).2 := by
  obtain ⟨c, u, rfl⟩ := List.exists_cons_of_ne_nil ht
  unfold front
  cases h : Matcher.ordered.findSome? fun rule =>
      ((rule.2 settings (c :: u)).filter (0 < ·)).map (rule.1, ·) with
  | none => exact usable_byteLength (List.cons_ne_nil c []) u
  | some found =>
    obtain ⟨rule, hrule, hfound⟩ := List.exists_of_findSome?_eq_some h
    rw [filter_of_mem_ordered hrule] at hfound
    obtain ⟨n, hn, rfl⟩ := Option.map_eq_some_iff.mp hfound
    exact usable_of_mem_ordered rule hrule hn

end Lexeme

open Lexeme

namespace Scanner

/-! ## Request after request -/

/-- The scanner after one more request; it stays where it is once there is no lexeme. -/
def onward (scanner : Scanner) : Scanner := (scanner.next?.map (·.2)).getD scanner

/-- **The requests are answered with the lexemes in turn**, and with nothing after the last. -/
theorem next?_iterate_onward (scanner : Scanner) (i : Nat) :
    (onward^[i] scanner).next?.map (·.1) = scanner.lexemes[i]? := by
  induction i generalizing scanner with
  | zero =>
    rcases hnext : scanner.next? with _ | ⟨l, scanner'⟩
    · simp [lexemes_of_none hnext, hnext]
    · simp [lexemes_of_some hnext, hnext]
  | succ i ih =>
    rw [Function.iterate_succ_apply, ih]
    rcases hnext : scanner.next? with _ | ⟨l, scanner'⟩
    · simp [onward, lexemes_of_none hnext, hnext]
    · simp [onward, lexemes_of_some hnext, hnext]

/-- The first request without an answer comes after as many as there are lexemes. -/
theorem next?_iterate_onward_eq_none_iff (scanner : Scanner) (i : Nat) :
    (onward^[i] scanner).next? = none ↔ scanner.lexemes.length ≤ i := by
  rw [← Option.map_eq_none_iff, next?_iterate_onward, List.getElem?_eq_none_iff]

/-- **A scanner gets on, and comes to an end.**  Whatever a matcher answers can be used and is not
discarded; the marker is found in the first three bytes, and a name has as many characters as bytes.
What is taken can be taken, and is the first character where no matcher answers.  A move by a length
that can be used ends exactly there.  Some number of requests, not above that of the characters that
are no blanks, are answered with lexemes, and all requests after them with none. -/
theorem progress (settings : Settings) :
    (∀ t, ∀ rule ∈ Matcher.ordered, (∀ n, rule.2 settings t = some n → Usable t n) ∧
      (rule.2 settings t).filter (0 < ·) = rule.2 settings t) ∧
    (∀ ignoreCase t, startsRemark ignoreCase t = (t.takeBytes? 3).any (startsRemark ignoreCase)) ∧
    (∀ t n, Matcher.word settings t = some n → countWithin n t = n) ∧
    (∀ c t, Usable (c :: t) (front settings (c :: t)).2 ∧
      ((∀ rule ∈ Matcher.ordered, rule.2 settings (c :: t) = none) →
        front settings (c :: t) = (.stray, c.utf8Size))) ∧
    (∀ (k : Cursor) (n : Nat), Usable k.rest n →
      (k.advanceBytes n).position.byte = k.position.byte + n) ∧
    ∀ source : Text, ∃ i ≤ source.countP (!isBlank ·),
      ∀ j, (onward^[j] (ofSource settings source)).next? = none ↔ i ≤ j := by
  refine ⟨fun t rule hrule => ⟨fun n => ?_, ?_⟩, startsRemark_eq_takeBytes?, fun t n h => ?_,
    fun c t => ⟨?_, fun h => ?_⟩, fun k n h => ?_, fun source => ?_⟩
  · exact usable_of_mem_ordered rule hrule
  · exact filter_of_mem_ordered hrule
  · exact (usable_word h).2
  · exact usable_front settings (List.cons_ne_nil c t)
  · exact front_eq_stray h
  · exact h.byte_advanceBytes
  · exact ⟨_, (scan_ofSource settings source).length_le_countP,
      next?_iterate_onward_eq_none_iff (ofSource settings source)⟩

/-- A name ends before a character of two bytes, and there no matcher answers. -/
theorem progress_two_bytes :
    let t : Text := "naïve".toList
    let u : Text := 'ï' :: "ve".toList
    Matcher.word {} t = some 2 ∧ Usable t 2 ∧ countWithin 2 t = 2 ∧
      (∀ rule ∈ Matcher.ordered, rule.2 {} u = none) ∧ front {} u = (.stray, 2) ∧
      Usable u 2 ∧ ((Cursor.ofSource u).advanceBytes 2).position.byte = 2 := by
  intro t u
  obtain ⟨hanswers, -, hword, hfront, hmove, -⟩ := progress {}
  have hname : Matcher.word {} t = some 2 := by decide +kernel
  have hsilent : ∀ rule ∈ Matcher.ordered, rule.2 {} u = none := by decide +kernel
  have husable : Usable t 2 :=
    (hanswers t (.word, Matcher.word) (by simp [Matcher.ordered])).1 2 hname
  obtain ⟨hone, hstray⟩ := hfront 'ï' "ve".toList
  have hfirst : front {} u = (.stray, 2) := hstray hsilent
  have hrest : Usable u 2 := by
    rw [show 2 = (front {} u).2 by rw [hfirst]]
    exact hone
  exact ⟨hname, husable, hword t 2 hname, hsilent, hfirst, hrest, hmove (.ofSource u) 2 hrest⟩

end Scanner

end BasicTokens
