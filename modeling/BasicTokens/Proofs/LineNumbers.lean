import BasicTokens.Proofs.Reports

/-!
# Proofs/LineNumbers — line numbers count line feeds, line ends are of two kinds

    REM ↵ A        a line feed: `A` is on the next line, and its number says so
    REM ⏎ A        a lone carriage return: `A` is on the next line, and its number is the same

A comment or an open string ends at a line feed or at a carriage return, while a line number counts
line feeds alone (`Position.line_after`).  So the number of a lexeme tells whether a line end stands
before it if every carriage return of the source stands before a line feed (`line_ofSource`), and
only then: after a lone one it does not (`not_line_lt_of_lone_return`).
-/

namespace BasicTokens

open Character Grammar Text

/-! ## Paired returns -/

/-- Whether every carriage return of a text stands right before a line feed. -/
def Text.pairsReturns : Text → Bool
  | [] => true
  | c :: t => (c != '\r' || t.head? == some '\n') && pairsReturns t

theorem Text.pairsReturns_of_append {s t : Text} (h : pairsReturns (s ++ t) = true) :
    pairsReturns t = true := by
  induction s with
  | nil => exact h
  | cons c s ih => exact ih (Bool.and_eq_true_iff.mp h).2

/-- **Where returns are paired, a line end brings a line feed** before the next character that ends
no line. -/
theorem Text.mem_feed_of_pairsReturns {before between after : Text}
    (h : pairsReturns (before ++ (between ++ after)) = true)
    (hafter : beginsWith isLineEnd after = false) (hend : ∃ c ∈ between, isLineEnd c = true) :
    '\n' ∈ between := by
  obtain ⟨c, hc, hline⟩ := hend
  obtain rfl | rfl : c = '\n' ∨ c = '\r' := by simpa [isLineEnd] using hline
  · exact hc
  · obtain ⟨u, v, rfl⟩ := List.append_of_mem hc
    have hreturn : pairsReturns ('\r' :: (v ++ after)) = true := by
      refine pairsReturns_of_append (s := before ++ u) ?_
      simpa using h
    have hnext : (v ++ after).head? = some '\n' := by
      simpa [pairsReturns] using (Bool.and_eq_true_iff.mp hreturn).1
    -- the line feed is not what comes after, so it is the next character here
    obtain _ | ⟨d, v⟩ := v
    · obtain ⟨w, rfl⟩ := List.head?_eq_some_iff.mp hnext
      exact absurd hafter (by simp [isLineEnd])
    · obtain rfl : d = '\n' := by simpa using hnext
      simp

namespace Lexeme

variable {settings : Settings} {category : Category} {p : Position} {s t rest source : Text}
  {front middle back : List Lexeme} {a b l : Lexeme}

/-! ## From one lexeme to another -/

/-- **A scan up to one of its lexemes**, and on from there. -/
theorem Scan.exists_placed : ∀ {front : List Lexeme} {p : Position} {t : Text},
    Scan settings p t (front ++ l :: back) →
      ∃ before category s rest, t = before ++ (s ++ rest) ∧ Cut settings category s rest ∧
        l = placed category s (p.after before) ∧
        Scan settings ((p.after before).after s) rest back ∧
        (front = [] → ∀ c ∈ before, isBlank c = true) := by
  intro front
  induction front with
  | nil =>
    intro p t h
    cases h with
    | cut blank cut more => exact ⟨_, _, _, _, rfl, cut, rfl, more, fun _ => blank⟩
  | cons m front ih =>
    intro p t h
    cases h with
    | @cut _ w u _ _ _ blank cut more =>
      obtain ⟨before, category, s, rest, rfl, hcut, rfl, hscan, -⟩ := ih more
      simp only [← Position.after_append] at hscan ⊢
      exact ⟨w ++ (u ++ before), category, s, rest, by simp, hcut, by simp, by simpa using hscan,
        by simp⟩

/-- What goes on to the end of its line: a comment, and a string that lacks its closing quote. -/
def takesLine (l : Lexeme) : Bool :=
  l.category == .comment || (l.category == .string && !isStringLiteral l.text)

/-- It leaves nothing but blanks on the line. -/
theorem Cut.isBlank_of_takesLine (h : Cut settings category s rest)
    (hline : (placed category s p).takesLine = true) : ∀ c ∈ rest.line, isBlank c = true := by
  cases h with
  | comment marker inLine trimmed tail => exact tail
  | openString policy plain trimmed tail => exact tail
  | closedString plain =>
    simp [takesLine, placed, isStringLiteral_closed fun h => (plain _ h).1 rfl] at hline
  | _ => simp [takesLine, placed] at hline

/-- **Where a line has only blanks left, the next lexeme comes after the line end.** -/
theorem Cut.exists_isLineEnd {gap : Text} (h : Cut settings category s rest)
    (hblank : ∀ c ∈ Text.line (gap ++ (s ++ rest)), isBlank c = true) :
    ∃ c ∈ gap, isLineEnd c = true := by
  by_contra hno
  have hgap : ∀ c ∈ gap, isLineEnd c = false := fun c hc =>
    Bool.eq_false_iff.mpr fun hend => hno ⟨c, hc, hend⟩
  rw [line_append hgap, line_append h.isLineEnd_eq_false] at hblank
  obtain ⟨c, s, rfl⟩ := List.exists_cons_of_ne_nil h.ne_nil
  have hc : isBlank c = false := h.beginsWith_isBlank
  exact absurd (hblank c (by simp)) (by simp [hc])

/-- **The text from the beginning of one lexeme to that of a later one**: it is this part of the
source, no line end follows it, and the line feeds in it are the lines between the two. -/
structure Between (source between : Text) (a b : Lexeme) : Prop where
  stands : ∃ before after, source = before ++ (between ++ after) ∧
    beginsWith isLineEnd after = false
  selected : source.slice? a.span.start b.span.start = some between
  line_eq : b.span.line = a.span.line + between.count '\n'

theorem exists_between
    (h : ofSource settings source = front ++ a :: (middle ++ b :: back)) :
    ∃ between, Between source between a b ∧
      (middle = [] → a.takesLine = true → ∃ c ∈ between, isLineEnd c = true) := by
  have hscan := scan_ofSource settings source
  rw [h] at hscan
  obtain ⟨before, category, s, rest, rfl, hcut, rfl, hmore, -⟩ := hscan.exists_placed
  obtain ⟨gap, category', s', rest', rfl, hcut', rfl, -, -⟩ := hmore.exists_placed
  have hsource : before ++ (s ++ (gap ++ (s' ++ rest')))
      = before ++ ((s ++ gap) ++ (s' ++ rest')) := by rw [List.append_assoc s]
  have hstop : beginsWith isLineEnd (s' ++ rest') = false := by
    rw [beginsWith_append hcut'.ne_nil]
    exact beginsWith_eq_false_of_imp hcut'.beginsWith_isBlank fun c => isBlank_of_isLineEnd
  refine ⟨s ++ gap, ⟨⟨before, s' ++ rest', hsource, hstop⟩, ?_, ?_⟩, fun _ hline => ?_⟩
  · have hselect := slice?_append before (s ++ gap) (s' ++ rest')
    simpa only [hsource, placed, Position.byte_after, Position.origin, Nat.zero_add,
      byteLength_append, Nat.add_assoc] using hselect
  · simp only [placed, Position.line_after, List.count_append, Nat.add_assoc]
  · obtain ⟨c, hc, hend⟩ := hcut'.exists_isLineEnd (hcut.isBlank_of_takesLine hline)
    exact ⟨c, List.mem_append_right s hc, hend⟩

end Lexeme

open Lexeme

/-- **What a line number says.**  Of two lexemes of a source, the later one is on a later line if
and only if a line feed stands between their beginnings, and has the same number otherwise; where
returns are paired, any line end there makes the difference.  After a comment or an open string
there is one before the next lexeme. -/
theorem line_ofSource (settings : Settings) (source : Text) (front middle back : List Lexeme)
    (a b : Lexeme) (h : ofSource settings source = front ++ a :: (middle ++ b :: back)) :
    ∃ between, source.slice? a.span.start b.span.start = some between ∧
      ('\n' ∈ between → a.span.line < b.span.line) ∧
      ('\n' ∉ between → b.span.line = a.span.line) ∧
      (source.pairsReturns = true →
        ((∃ c ∈ between, isLineEnd c = true) → a.span.line < b.span.line) ∧
        ((∀ c ∈ between, isLineEnd c = false) → b.span.line = a.span.line)) ∧
      (middle = [] → a.takesLine = true → ∃ c ∈ between, isLineEnd c = true) := by
  obtain ⟨between, ⟨⟨before, after, hsource, hstop⟩, hselect, hline⟩, hnext⟩ := exists_between h
  have hlater : '\n' ∈ between → a.span.line < b.span.line := fun hmem => by
    have := List.count_pos_iff.mpr hmem
    omega
  have hsame : '\n' ∉ between → b.span.line = a.span.line := fun hmem => by
    rw [hline, List.count_eq_zero.mpr hmem, Nat.add_zero]
  refine ⟨between, hselect, hlater, hsame, fun hpairs => ⟨fun hend => ?_, fun hno => ?_⟩, hnext⟩
  · exact hlater (mem_feed_of_pairsReturns (hsource ▸ hpairs) hstop hend)
  · exact hsame fun hmem => absurd (hno _ hmem) (by decide)

/-- A comment ended by a paired return. -/
theorem line_ofSource_comment :
    let source : Text := "REM\r\nA".toList
    let a : Lexeme := ⟨.comment, "REM".toList, 0, ⟨0, 3, 1, 1⟩⟩
    let b : Lexeme := ⟨.word, ['A'], 5, ⟨5, 6, 2, 1⟩⟩
    ofSource {} source = [] ++ a :: ([] ++ b :: []) ∧ source.pairsReturns = true ∧
      a.takesLine = true ∧ a.span.line < b.span.line := by
  intro source a b
  have h : ofSource {} source = [] ++ a :: ([] ++ b :: []) := by decide +kernel
  have hpairs : source.pairsReturns = true := by decide +kernel
  obtain ⟨between, -, -, -, hpaired, hnext⟩ := line_ofSource {} source [] [] [] a b h
  exact ⟨h, hpairs, by decide, (hpaired hpairs).1 (hnext rfl (by decide))⟩

/-- **A lone carriage return ends a line and begins none.**  So it is not so that of two lexemes
with a line end between their beginnings the second is on a later line. -/
theorem not_line_lt_of_lone_return :
    ¬ ∀ (settings : Settings) (source : Text) (front middle back : List Lexeme) (a b : Lexeme)
        (between : Text), ofSource settings source = front ++ a :: (middle ++ b :: back) →
        source.slice? a.span.start b.span.start = some between →
        (∃ c ∈ between, isLineEnd c = true) → a.span.line < b.span.line := by
  intro h
  have hline := h {} "REM\rA".toList [] [] [] ⟨.comment, "REM".toList, 0, ⟨0, 3, 1, 1⟩⟩
    ⟨.word, ['A'], 4, ⟨4, 5, 1, 5⟩⟩ "REM\r".toList (by decide +kernel) (by decide +kernel)
    ⟨'\r', by decide, by decide⟩
  exact absurd hline (by decide)

end BasicTokens
