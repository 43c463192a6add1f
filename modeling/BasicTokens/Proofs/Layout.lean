import BasicTokens.Proofs.Scan

/-!
# Proofs/Layout — the gaps between lexemes can be changed

    gap 0  text 0  gap 1  text 1  …  gap n

A source is the layout of its lexemes' texts in the gaps it has around them.  In other gaps the same
texts are cut again, as long as what was kept apart stays apart (`KeepsApart`): a gap that is not
empty separates two lexemes, and a line end in it is where a comment or an open quote stops.  The
argument is about one lexeme and what follows it (`Relaid.mayFollow`); its one subtle case is a
number before a point, because that looks at two lexemes.
-/

namespace BasicTokens

open Character Grammar Text

namespace Lexeme

/-! ## Layouts -/

/-- What was cut, without its place. -/
def piece (l : Lexeme) : Category × Text := (l.category, l.text)

/-- Texts in gaps: the first gap, the first text, the second gap, and so on up to a last gap. -/
def layout (gaps : Nat → Text) : List Text → Text
  | [] => gaps 0
  | text :: texts => gaps 0 ++ (text ++ layout (fun i => gaps (i + 1)) texts)

/-- The gaps of a text around its lexemes, the text having `start` characters before it: what stands
before the first lexeme, between two of them, and after the last one. -/
def gap (start : Nat) (t : Text) : List Lexeme → Nat → Text
  | [], _ => t
  | l :: _, 0 => t.take (l.offset - start)
  | l :: lexemes, i + 1 =>
    gap (l.offset + l.text.length) (t.drop (l.offset - start + l.text.length)) lexemes i

/-- **What `g` keeps apart, `w` keeps apart**: `w` is not empty unless `g` is, and it ends a line if
`g` does. -/
structure KeepsApart (g w : Text) : Prop where
  ne_nil : g ≠ [] → w ≠ []
  lineEnd : (∃ c ∈ g, isLineEnd c = true) → ∃ c ∈ w, isLineEnd c = true

variable {settings : Settings} {category : Category} {p q : Position} {s t rest w g : Text}
  {lexemes : List Lexeme} {gaps : Nat → Text}

/-! ## The gaps of a derivation -/

theorem gap_nil (start : Nat) (t : Text) (i : Nat) : gap start t [] i = t := by
  rw [gap]

theorem gap_cons_zero :
    gap p.offset (w ++ (s ++ rest)) (placed category s (p.after w) :: lexemes) 0 = w := by
  have hlen : (placed category s (p.after w)).offset - p.offset = w.length := by
    rw [placed, Position.offset_after, Nat.add_sub_cancel_left]
  rw [gap, hlen, List.take_left]

theorem gap_cons_succ (i : Nat) :
    gap p.offset (w ++ (s ++ rest)) (placed category s (p.after w) :: lexemes) (i + 1)
      = gap ((p.after w).after s).offset rest lexemes i := by
  have hlen : (placed category s (p.after w)).offset - p.offset + s.length = (w ++ s).length := by
    rw [placed, Position.offset_after, Nat.add_sub_cancel_left, List.length_append]
  change gap ((p.after w).offset + s.length) ((w ++ (s ++ rest)).drop
    ((placed category s (p.after w)).offset - p.offset + s.length)) lexemes i = _
  rw [hlen, ← List.append_assoc, List.drop_left, Position.offset_after (p.after w)]

/-- **A text is the layout of its lexemes in its own gaps**, and these are blank. -/
theorem Scan.layout_gap (h : Scan settings p t lexemes) :
    layout (gap p.offset t lexemes) (lexemes.map Lexeme.text) = t ∧
      ∀ i, ∀ c ∈ gap p.offset t lexemes i, isBlank c = true := by
  induction h with
  | done blank =>
    refine ⟨gap_nil _ _ 0, fun i => ?_⟩
    rwa [gap_nil]
  | @cut p w s rest category lexemes blank front more ih =>
    refine ⟨?_, fun i => ?_⟩
    · rw [List.map_cons, layout, gap_cons_zero]
      simp only [gap_cons_succ]
      rw [ih.1]
      rfl
    · cases i with
      | zero => rwa [gap_cons_zero]
      | succ i =>
        rw [gap_cons_succ]
        exact ih.2 i

/-! ## One lexeme and what follows it -/

/-- Two texts with the same cuts and other gaps, which keep apart what was kept apart. -/
inductive Relaid (settings : Settings) : Text → Text → Prop
  | last {g w : Text} (old : ∀ c ∈ g, isBlank c = true) (new : ∀ c ∈ w, isBlank c = true) :
      Relaid settings g w
  | text {g w s rest t : Text} {category : Category} (old : ∀ c ∈ g, isBlank c = true)
      (new : ∀ c ∈ w, isBlank c = true) (apart : KeepsApart g w)
      (front : Cut settings category s rest) (more : Relaid settings rest t) :
      Relaid settings (g ++ (s ++ rest)) (w ++ (s ++ t))

/-- Only blanks are on the line that ends within blanks. -/
theorem isBlank_of_mem_line (hw : ∀ c ∈ w, isBlank c = true)
    (hend : ∃ c ∈ w, isLineEnd c = true) : ∀ c ∈ (w ++ t).line, isBlank c = true := by
  obtain ⟨c, hc, hline⟩ := hend
  obtain ⟨u, v, rfl⟩ := List.append_of_mem hc
  rw [List.append_assoc, List.cons_append, line_append_of_lineEnd hline]
  exact fun d hd => hw d (List.mem_append_left _ (mem_of_mem_line hd))

/-- A point is cut by itself. -/
theorem Cut.eq_point (h : Cut settings category s rest) (hpoint : beginsWith (· == '.') s = true) :
    s = ['.'] := by
  obtain ⟨c, u, rfl, hc⟩ := exists_cons_of_beginsWith hpoint
  obtain rfl : c = '.' := by simpa using hc
  have hstray : Cut settings .stray ['.'] (u ++ rest) :=
    .stray (by decide) (by decide) (by decide) (by decide) (by decide)
  exact (h.unique hstray rfl).2.1

namespace Relaid

/-- A blank comes first, or nothing at all, unless there was no gap in front and none was added. -/
theorem front_cases (h : Relaid settings rest t) :
    (∀ p : Char → Bool, (∀ c, isBlank c = true → p c = false) → beginsWith p t = false) ∨
      ∃ category s rest' t', rest = s ++ rest' ∧ t = s ++ t' ∧ Cut settings category s rest' ∧
        Relaid settings rest' t' := by
  have hblank : ∀ {w : Text} (u : Text), (∀ c ∈ w, isBlank c = true) → w ≠ [] →
      ∀ p : Char → Bool, (∀ c, isBlank c = true → p c = false) → beginsWith p (w ++ u) = false := by
    intro w u hw hne p hp
    obtain ⟨c, w, rfl⟩ := List.exists_cons_of_ne_nil hne
    exact hp c (hw c List.mem_cons_self)
  cases h with
  | last old new =>
    by_cases ht : t = []
    · exact Or.inl fun p _ => ht ▸ rfl
    · exact Or.inl (by simpa using hblank [] new ht)
  | @text g w s rest t category old new apart front more =>
    by_cases hw : w = []
    · have hg : g = [] := by_contra fun hg => apart.ne_nil hg hw
      subst hw hg
      exact Or.inr ⟨category, s, rest, t, rfl, rfl, front, more⟩
    · exact Or.inl (hblank _ new hw)

theorem begins (h : Relaid settings rest t) {p : Char → Bool}
    (hp : ∀ c, isBlank c = true → p c = false) (hrest : beginsWith p rest = false) :
    beginsWith p t = false := by
  obtain hblank | ⟨category, s, rest, t, rfl, rfl, front, -⟩ := h.front_cases
  · exact hblank p hp
  · rwa [beginsWith_append front.ne_nil] at hrest ⊢

/-- Before a point, a number looks at the lexeme after it. -/
theorem fraction (h : Relaid settings rest t) (hrest : Matcher.fraction rest = []) :
    Matcher.fraction t = [] := by
  have hblank : ∀ c, isBlank c = true → (c == '.') = false :=
    fun c => forall_blank (q := fun d => (d == '.') = false) (by decide)
  obtain hfirst | ⟨category, s, rest, t, rfl, rfl, front, more⟩ := h.front_cases
  · exact fraction_eq_nil (hfirst _ hblank)
  cases hpoint : beginsWith (· == '.') s with
  | false => exact fraction_eq_nil ((beginsWith_append front.ne_nil).trans hpoint)
  | true =>
    obtain rfl := front.eq_point hpoint
    exact fraction_point_eq_nil_iff.mpr
      (more.begins (fun c => isDigit_of_isBlank) (fraction_point_eq_nil_iff.mp hrest))

/-- The characters on the line are those of the same lexemes, or of fewer. -/
theorem line (h : Relaid settings rest t) {q : Char → Prop} (hq : ∀ c, isBlank c = true → q c)
    (hrest : ∀ c ∈ rest.line, q c) : ∀ c ∈ t.line, q c := by
  induction h with
  | last old new => exact fun c hc => hq c (new c (mem_of_mem_line hc))
  | @text g w s rest t category old new apart front more ih =>
    by_cases hend : ∃ c ∈ w, isLineEnd c = true
    · exact fun c hc => hq c (isBlank_of_mem_line new hend c hc)
    · have hg : ∀ c ∈ g, isLineEnd c = false := fun c hc => by
        by_contra hline
        exact hend (apart.lineEnd ⟨c, hc, by simpa using hline⟩)
      have hw : ∀ c ∈ w, isLineEnd c = false := by simpa using hend
      have hs := front.isLineEnd_eq_false
      rw [line_append hg, line_append hs] at hrest
      rw [line_append hw, line_append hs]
      simp only [List.forall_mem_append] at hrest ⊢
      exact ⟨fun c hc => hq c (new c hc), hrest.2.1, ih hrest.2.2⟩

/-- **What follows a lexeme may be laid out anew.** -/
theorem mayFollow (h : Relaid settings rest t) : MayFollow rest t :=
  ⟨fun _ hp => h.begins hp, h.fraction, fun _ hq => h.line hq⟩

end Relaid

/-! ## The lexemes of a layout -/

/-- With gaps that keep apart what was kept apart, what follows a lexeme is laid out anew. -/
theorem Scan.relaid (h : Scan settings p t lexemes) : ∀ {w : Nat → Text},
    (∀ i ≤ lexemes.length, ∀ c ∈ w i, isBlank c = true) →
      (∀ i < lexemes.length, KeepsApart (gap p.offset t lexemes i) (w i)) →
        Relaid settings t (layout w (lexemes.map Lexeme.text)) := by
  induction h with
  | done blank => exact fun hw _ => .last blank (hw 0 le_rfl)
  | @cut p v s rest category lexemes blank front more ih =>
    intro w hw hapart
    have hfirst := hapart 0 (Nat.succ_pos _)
    rw [gap_cons_zero] at hfirst
    refine .text blank (hw 0 (Nat.zero_le _)) hfirst front (ih (fun i hi => ?_) fun i hi => ?_)
    · exact hw (i + 1) (Nat.succ_le_succ hi)
    · have hmore := hapart (i + 1) (Nat.succ_lt_succ hi)
      rwa [gap_cons_succ] at hmore

/-- **Every cut is found again in the new layout.** -/
theorem Scan.relayout (h : Scan settings p t lexemes) : ∀ {w : Nat → Text} (q : Position),
    (∀ i ≤ lexemes.length, ∀ c ∈ w i, isBlank c = true) →
      (∀ i, 0 < i → i < lexemes.length → KeepsApart (gap p.offset t lexemes i) (w i)) →
        ∃ lexemes', Scan settings q (layout w (lexemes.map Lexeme.text)) lexemes' ∧
          lexemes'.map piece = lexemes.map piece := by
  induction h with
  | done blank => exact fun q hw _ => ⟨[], .done (hw 0 le_rfl), rfl⟩
  | @cut p v s rest category lexemes blank front more ih =>
    intro w q hw hapart
    have hblank : ∀ i ≤ lexemes.length, ∀ c ∈ w (i + 1), isBlank c = true :=
      fun i hi => hw (i + 1) (Nat.succ_le_succ hi)
    have hinner : ∀ i < lexemes.length,
        KeepsApart (gap ((p.after v).after s).offset rest lexemes i) (w (i + 1)) := by
      intro i hi
      have hmore := hapart (i + 1) (Nat.succ_pos i) (Nat.succ_lt_succ hi)
      rwa [gap_cons_succ] at hmore
    have hcut := front.of_mayFollow (more.relaid hblank hinner).mayFollow
    obtain ⟨lexemes', hscan, hpieces⟩ :=
      ih (((q.after (w 0)).after s)) hblank fun i _ => hinner i
    refine ⟨_, .cut (hw 0 (Nat.zero_le _)) hcut hscan, ?_⟩
    rw [List.map_cons, List.map_cons, hpieces]
    rfl

/-- **The layout of a source does not matter**: a source is its lexemes' texts in its own gaps, and
in any gaps that keep apart what was kept apart, the same texts are cut for the same categories.
The first gap and the last one are free. -/
theorem ofSource_layout (settings : Settings) (source : Text) :
    let lexemes := ofSource settings source
    let texts := lexemes.map Lexeme.text
    let gaps := gap 0 source lexemes
    (layout gaps texts = source ∧ ∀ i, ∀ c ∈ gaps i, isBlank c = true) ∧
      ∀ w : Nat → Text, (∀ i ≤ lexemes.length, ∀ c ∈ w i, isBlank c = true) →
        (∀ i, 0 < i → i < lexemes.length → KeepsApart (gaps i) (w i)) →
          (ofSource settings (layout w texts)).map piece = lexemes.map piece := by
  have hscan := scan_ofSource settings source
  refine ⟨hscan.layout_gap, fun w hw hapart => ?_⟩
  obtain ⟨lexemes, hlayout, hpieces⟩ := hscan.relayout .origin hw hapart
  rw [hlayout.ofSource_eq, hpieces]

/-- A number before a point, a quote without another one and a comment, each on its own line. -/
theorem ofSource_layout_open_quote :
    KeepsApart ['\n'] ['\r', ' '] ∧
      (ofSource {} (layout (fun _ => ['\r', ' ']) [['3'], ['.'], ['"'], ['a'], "REM".toList])).map
          piece
        = [(.number, ['3']), (.stray, ['.']), (.stray, ['"']), (.word, ['a']),
            (.comment, "REM".toList)] := by
  have hblank : ∀ c ∈ ['\r', ' '], isBlank c = true := by simp [isBlank]
  have hapart : ∀ g, KeepsApart g ['\r', ' '] :=
    fun g => ⟨fun _ => by simp, fun _ => ⟨'\r', by decide⟩⟩
  have htexts : (ofSource {} "3.\"a\nREM".toList).map Lexeme.text
      = [['3'], ['.'], ['"'], ['a'], "REM".toList] := by decide +kernel
  have hpieces : (ofSource {} "3.\"a\nREM".toList).map piece = [(.number, ['3']), (.stray, ['.']),
      (.stray, ['"']), (.word, ['a']), (.comment, "REM".toList)] := by decide +kernel
  obtain ⟨-, h⟩ := ofSource_layout {} "3.\"a\nREM".toList
  rw [htexts, hpieces] at h
  exact ⟨hapart _, h _ (fun _ _ => hblank) fun _ _ _ => hapart _⟩

end Lexeme

end BasicTokens
