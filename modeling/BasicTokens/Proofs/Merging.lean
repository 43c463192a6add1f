import BasicTokens.Proofs.Boundaries
import BasicTokens.Proofs.Tiling

/-!
# Proofs/Merging — many spans merged into one

    LET X = "é"        merged: LET … "é"     (X · "é") · LET   =   LET · (X · "é")
    ───     ───

Merging is associative but not commutative: of two spans with the same start, the line and column of
the left one are kept (`Span.merge_assoc`).  What is merged covers the spans it is made of
(`Merging.covers`), and is known by them as far as a start has one line and one column
(`Covers.unique`).  In a source it has: lexemes that start together are one.  So the lexemes of a
source have one merged span, whatever the order and the bracketing, and it selects the source from
the first of them to the last (`Lexeme.exists_encloses`).
-/

namespace BasicTokens

open Text

namespace Span

variable {a b : Span} {l m : List Span}

/-! ## Two and three spans -/

theorem stop_merge (a b : Span) : (a.merge b).stop = max a.stop b.stop := rfl

/-- The right one is kept if it starts first. -/
theorem merge_of_lt (h : b.start < a.start) :
    a.merge b = ⟨b.start, max a.stop b.stop, b.line, b.column⟩ := by
  simp only [merge, if_pos h, Nat.min_eq_right h.le]

/-- …and the left one otherwise. -/
theorem merge_of_le (h : a.start ≤ b.start) :
    a.merge b = ⟨a.start, max a.stop b.stop, a.line, a.column⟩ := by
  simp only [merge, if_neg (Nat.not_lt.mpr h), Nat.min_eq_left h]

/-- **Merging is associative**: of three spans, the leftmost of those that start first is kept. -/
theorem merge_assoc (a b c : Span) : (a.merge b).merge c = a.merge (b.merge c) := by
  have hstop := Nat.max_assoc a.stop b.stop c.stop
  rcases Nat.lt_or_ge b.start a.start with hab | hab
  · rcases Nat.lt_or_ge c.start b.start with hbc | hbc
    · simp only [merge_of_lt, hab, hbc, hbc.trans hab, hstop]
    · simp only [merge_of_lt, merge_of_le, hab, hbc, hstop]
  · rcases Nat.lt_or_ge c.start a.start with hac | hac
    · simp only [merge_of_lt, merge_of_le, hab, hac, hac.trans_le hab, hstop]
    · -- the first is kept, whichever of the others starts first
      have hle : a.start ≤ (b.merge c).start := Nat.le_min.mpr ⟨hab, hac⟩
      simp only [merge_of_le, hab, hac, hle, stop_merge, hstop]

/-- It is not commutative: of two that start together, the left one is kept. -/
example : merge ⟨0, 1, 1, 1⟩ ⟨0, 1, 2, 1⟩ ≠ merge ⟨0, 1, 2, 1⟩ ⟨0, 1, 1, 1⟩ := by decide

/-! ## Any number of spans -/

/-- **A span covers others**: it is the least range from the first start to the last stop, at the
line and column of one that starts first. -/
structure Covers (l : List Span) (b : Span) : Prop where
  first : ∃ a ∈ l, a.start = b.start ∧ a.line = b.line ∧ a.column = b.column
  last : ∃ a ∈ l, a.stop = b.stop
  start_le : ∀ a ∈ l, b.start ≤ a.start
  le_stop : ∀ a ∈ l, a.stop ≤ b.stop

/-- A span covers itself. -/
theorem covers_singleton (a : Span) : Covers [a] a where
  first := ⟨a, List.mem_singleton_self a, rfl, rfl, rfl⟩
  last := ⟨a, List.mem_singleton_self a, rfl⟩
  start_le := by simp
  le_stop := by simp

/-- **Two covers merge into one** of all that they cover. -/
theorem Covers.merge (ha : Covers l a) (hb : Covers m b) : Covers (l ++ m) (a.merge b) where
  first := by
    obtain ⟨x, hx, hstart⟩ := ha.first
    obtain ⟨y, hy, hstart'⟩ := hb.first
    rcases Nat.lt_or_ge b.start a.start with h | h
    · exact ⟨y, List.mem_append_right l hy, by rwa [merge_of_lt h]⟩
    · exact ⟨x, List.mem_append_left m hx, by rwa [merge_of_le h]⟩
  last := by
    obtain ⟨x, hx, hstop⟩ := ha.last
    obtain ⟨y, hy, hstop'⟩ := hb.last
    rcases Nat.le_total a.stop b.stop with h | h
    · exact ⟨y, List.mem_append_right l hy, hstop'.trans (Nat.max_eq_right h).symm⟩
    · exact ⟨x, List.mem_append_left m hx, hstop.trans (Nat.max_eq_left h).symm⟩
  start_le := List.forall_mem_append.mpr
    ⟨fun x hx => (Nat.min_le_left _ _).trans (ha.start_le x hx),
      fun y hy => (Nat.min_le_right _ _).trans (hb.start_le y hy)⟩
  le_stop := List.forall_mem_append.mpr
    ⟨fun x hx => (ha.le_stop x hx).trans (Nat.le_max_left _ _),
      fun y hy => (hb.le_stop y hy).trans (Nat.le_max_right _ _)⟩

/-- What one of the spans contains, the cover contains. -/
theorem Covers.contains (h : Covers l b) (ha : a ∈ l) {n : Nat} (hn : a.contains n = true) :
    b.contains n = true := by
  obtain ⟨hfrom, hto⟩ := (mem_contains_iff a n).mp hn
  exact (mem_contains_iff b n).mpr
    ⟨(h.start_le a ha).trans hfrom, hto.trans_le (h.le_stop a ha)⟩

/-- **Spans have one cover** if a start has one line and one column among them. -/
theorem Covers.unique (h : Covers l a) (h' : Covers m b) (hmem : ∀ x, x ∈ l ↔ x ∈ m)
    (hplace : ∀ x ∈ l, ∀ y ∈ l, x.start = y.start → x.line = y.line ∧ x.column = y.column) :
    a = b := by
  obtain ⟨x, hx, hxstart, hxline, hxcolumn⟩ := h.first
  obtain ⟨y, hy, hystart, hyline, hycolumn⟩ := h'.first
  obtain ⟨u, hu, hustop⟩ := h.last
  obtain ⟨v, hv, hvstop⟩ := h'.last
  have hstart : a.start = b.start := Nat.le_antisymm
    ((h.start_le y ((hmem y).mpr hy)).trans hystart.le)
    ((h'.start_le x ((hmem x).mp hx)).trans hxstart.le)
  have hstop : a.stop = b.stop := Nat.le_antisymm
    (hustop.ge.trans (h'.le_stop u ((hmem u).mp hu)))
    (hvstop.ge.trans (h.le_stop v ((hmem v).mpr hv)))
  obtain ⟨hline, hcolumn⟩ := hplace x hx y ((hmem y).mpr hy)
    (hxstart.trans (hstart.trans hystart.symm))
  have haline : a.line = b.line := hxline.symm.trans (hline.trans hyline)
  have hacolumn : a.column = b.column := hxcolumn.symm.trans (hcolumn.trans hycolumn)
  cases a
  cases b
  exact (Span.mk.injEq ..).mpr ⟨hstart, hstop, haline, hacolumn⟩

/-- **Spans merged two at a time**, in some order and bracketing. -/
inductive Merging where
  | one (a : Span)
  | both (x y : Merging)

namespace Merging

/-- The spans that are merged, from left to right. -/
def spans : Merging → List Span
  | one a => [a]
  | both x y => x.spans ++ y.spans

/-- What becomes of them. -/
def result : Merging → Span
  | one a => a
  | both x y => x.result.merge y.result

/-- **What is merged covers the spans it is made of.** -/
theorem covers : ∀ x : Merging, Covers x.spans x.result
  | one a => covers_singleton a
  | both x y => x.covers.merge y.covers

/-- There is a way to merge spans if there are any. -/
theorem exists_spans_eq : ∀ {l : List Span}, l ≠ [] → ∃ x : Merging, x.spans = l
  | [a], _ => ⟨one a, rfl⟩
  | a :: b :: l, _ => by
    obtain ⟨x, hx⟩ := exists_spans_eq (List.cons_ne_nil b l)
    exact ⟨both (one a) x, by rw [spans, spans, hx, List.singleton_append]⟩

end Merging

end Span

namespace Lexeme

variable {settings : Settings} {source before before' : Text} {l m : Lexeme}

/-! ## Lexemes of a source -/

/-- Every lexeme stands somewhere in its source, and is not empty. -/
theorem exists_standsAfter (h : l ∈ ofSource settings source) :
    ∃ before, StandsAfter before source l ∧ l.span.start < l.span.stop := by
  obtain ⟨before, category, s, after, rfl, hcut, rfl⟩ :=
    (scan_ofSource settings source).exists_cut_of_mem h
  exact ⟨before, standsAfter_placed category before s after,
    Nat.lt_add_of_pos_right (byteLength_pos hcut.ne_nil)⟩

/-- **A start is one place of a source**, with one line and one column. -/
theorem StandsAfter.place_eq (h : StandsAfter before source l) (h' : StandsAfter before' source m)
    (hstart : l.span.start = m.span.start) :
    l.span.line = m.span.line ∧ l.span.column = m.span.column := by
  obtain ⟨after, hsource⟩ := h.source_eq
  obtain ⟨after', hsource'⟩ := h'.source_eq
  have hbytes : before.byteLength = before'.byteLength := by rw [← h.start_eq, hstart, h'.start_eq]
  obtain ⟨rfl, -⟩ := append_inj_of_byteLength (hsource.symm.trans hsource') hbytes
  exact ⟨h.line_eq.trans h'.line_eq.symm, h.column_eq.trans h'.column_eq.symm⟩

/-- A lexeme that stops first starts first, because lexemes do not overlap. -/
theorem start_le_of_stop_le (hl : l ∈ ofSource settings source) (hm : m ∈ ofSource settings source)
    (h : l.span.stop ≤ m.span.stop) : l.span.start ≤ m.span.start := by
  obtain ⟨-, -, hpos⟩ := exists_standsAfter hl
  have hapart : (ofSource settings source).Pairwise fun l m =>
      l.span.stop ≤ m.span.start ∨ m.span.stop ≤ l.span.start :=
    (scan_ofSource settings source).pairwise.imp Or.inl
  have : Std.Symm fun l m : Lexeme =>
      l.span.stop ≤ m.span.start ∨ m.span.stop ≤ l.span.start := ⟨fun _ _ => Or.symm⟩
  by_cases hsame : l = m
  · rw [hsame]
  · have hor := hapart.forall hl hm hsame
    omega

/-- **The text from one place to the end of a later one** is what the span between them selects. -/
theorem StandsAfter.exists_selected (h : StandsAfter before source l)
    (h' : StandsAfter before' source m) (hle : l.span.start ≤ m.span.start) (line column : Nat) :
    ∃ text after, source = before ++ (text ++ after) ∧ m.span.stop = (before ++ text).byteLength ∧
      Span.select? ⟨l.span.start, m.span.stop, line, column⟩ source = some text := by
  obtain ⟨after, hsource⟩ := h.source_eq
  obtain ⟨after', hsource'⟩ := h'.source_eq
  rw [h.start_eq, h'.start_eq] at hle
  obtain ⟨between, rfl⟩ := prefix_of_byteLength_le (hsource.symm.trans hsource') hle
  have hparts : source = before ++ ((between ++ m.text) ++ after') := by
    rw [hsource', List.append_assoc, List.append_assoc]
  have hstop : m.span.stop = before.byteLength + Text.byteLength (between ++ m.text) := by
    rw [h'.stop_eq, byteLength_append, byteLength_append, Nat.add_assoc]
  refine ⟨between ++ m.text, after', hparts, ?_, ?_⟩
  · rw [hstop, byteLength_append before]
  · rw [Span.select?, h.start_eq, hstop, hparts]
    exact slice?_append before (between ++ m.text) after'

/-- **A span encloses lexemes of a source**: it reaches from the least start to the greatest stop,
has the line and column of the first of them, contains every byte of theirs, and selects the source
from the first to the end of the last. -/
structure Encloses (source : Text) (chosen : List Lexeme) (first last : Lexeme) (b : Span) : Prop where
  first_mem : first ∈ chosen
  last_mem : last ∈ chosen
  first_le : ∀ l ∈ chosen, first.span.start ≤ l.span.start
  le_last : ∀ l ∈ chosen, l.span.start ≤ last.span.start
  start_isLeast : IsLeast {n | ∃ l ∈ chosen, l.span.start = n} b.start
  stop_isGreatest : IsGreatest {n | ∃ l ∈ chosen, l.span.stop = n} b.stop
  line_eq : b.line = first.span.line
  column_eq : b.column = first.span.column
  contains : ∀ l ∈ chosen, ∀ n, l.span.contains n = true → b.contains n = true
  selected : ∃ before text after, source = before ++ (text ++ after) ∧
    first.span.start = before.byteLength ∧ last.span.stop = (before ++ text).byteLength ∧
    b.select? source = some text

/-- A cover of lexemes encloses them. -/
theorem exists_encloses_of_covers {chosen : List Lexeme} {b : Span}
    (hchosen : ∀ l ∈ chosen, l ∈ ofSource settings source)
    (h : Span.Covers (chosen.map (·.span)) b) : ∃ first last, Encloses source chosen first last b := by
  obtain ⟨_, ha, hstart, hline, hcolumn⟩ := h.first
  obtain ⟨first, hfirst, rfl⟩ := List.mem_map.mp ha
  obtain ⟨_, hc, hstop⟩ := h.last
  obtain ⟨last, hlast, rfl⟩ := List.mem_map.mp hc
  have hstarts : ∀ l ∈ chosen, b.start ≤ l.span.start := fun l hl =>
    h.start_le _ (List.mem_map_of_mem hl)
  have hstops : ∀ l ∈ chosen, l.span.stop ≤ b.stop := fun l hl =>
    h.le_stop _ (List.mem_map_of_mem hl)
  obtain ⟨before, hbefore, -⟩ := exists_standsAfter (hchosen first hfirst)
  obtain ⟨before', hbefore', -⟩ := exists_standsAfter (hchosen last hlast)
  refine ⟨first, last, hfirst, hlast, fun l hl => hstart.le.trans (hstarts l hl), fun l hl => ?_,
    ⟨⟨first, hfirst, hstart⟩, ?_⟩, ⟨⟨last, hlast, hstop⟩, ?_⟩, hline.symm, hcolumn.symm,
    fun l hl n => h.contains (List.mem_map_of_mem hl), ?_⟩
  · exact start_le_of_stop_le (hchosen l hl) (hchosen last hlast) ((hstops l hl).trans hstop.ge)
  · rintro _ ⟨l, hl, rfl⟩
    exact hstarts l hl
  · rintro _ ⟨l, hl, rfl⟩
    exact hstops l hl
  · obtain ⟨text, after, hsource, htext, hselect⟩ := hbefore.exists_selected hbefore'
      (hstart.le.trans (hstarts last hlast)) b.line b.column
    rw [hstart, hstop] at hselect
    exact ⟨before, text, after, hsource, hbefore.start_eq, htext, hselect⟩

/-- **Merging is associative and idempotent, and lexemes of a source merge into one span.**  In
whatever order and bracketing the spans of some lexemes are merged, and however often each is taken,
the result is the same, and it encloses them. -/
theorem exists_encloses (settings : Settings) (source : Text) :
    (∀ a b c : Span, (a.merge b).merge c = a.merge (b.merge c)) ∧ (∀ a : Span, a.merge a = a) ∧
    ∀ chosen : List Lexeme, chosen ≠ [] → (∀ l ∈ chosen, l ∈ ofSource settings source) →
      ∃ first last b, Encloses source chosen first last b ∧
        ∀ x : Span.Merging, (∀ a, a ∈ x.spans ↔ a ∈ chosen.map (·.span)) → x.result = b := by
  refine ⟨Span.merge_assoc, Span.merge_self, fun chosen hne hchosen => ?_⟩
  obtain ⟨y, hy⟩ := Span.Merging.exists_spans_eq (mt List.map_eq_nil_iff.mp hne)
  obtain ⟨first, last, hencloses⟩ := exists_encloses_of_covers hchosen (hy ▸ y.covers)
  refine ⟨first, last, y.result, hencloses, fun x hx => x.covers.unique y.covers ?_ ?_⟩
  · exact fun a => hy ▸ hx a
  · intro a ha b hb hstart
    obtain ⟨l, hl, rfl⟩ := List.mem_map.mp ((hx a).mp ha)
    obtain ⟨m, hm, rfl⟩ := List.mem_map.mp ((hx b).mp hb)
    obtain ⟨before, hbefore, -⟩ := exists_standsAfter (hchosen l hl)
    obtain ⟨before', hbefore', -⟩ := exists_standsAfter (hchosen m hm)
    exact hbefore.place_eq hbefore' hstart

/-- A string of the second line, merged with a name of the first. -/
theorem exists_encloses_string_name :
    let source : Text := "LET X\n = \"é\"".toList
    let name : Lexeme := ⟨.word, ['X'], 4, ⟨4, 5, 1, 5⟩⟩
    let string : Lexeme := ⟨.string, "\"é\"".toList, 9, ⟨9, 13, 2, 4⟩⟩
    [string, name] ≠ [] ∧ (∀ l ∈ [string, name], l ∈ ofSource {} source) ∧
      ∃ first last, Encloses source [string, name] first last ⟨4, 13, 1, 5⟩ := by
  intro source name string
  have hne : [string, name] ≠ [] := List.cons_ne_nil string [name]
  have hmem : ∀ l ∈ [string, name], l ∈ ofSource {} source := by decide +kernel
  obtain ⟨first, last, b, hencloses, hresult⟩ :=
    (exists_encloses {} source).2.2 [string, name] hne hmem
  obtain rfl : string.span.merge name.span = b :=
    hresult (.both (.one string.span) (.one name.span)) fun _ => Iff.rfl
  exact ⟨hne, hmem, first, last, hencloses⟩

end Lexeme

end BasicTokens
