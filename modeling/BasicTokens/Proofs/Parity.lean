import BasicTokens.Proofs.Boundaries
import BasicTokens.Proofs.Policy

/-!
# Proofs/Parity — an open quote is told by counting

    "a" 1 "b   REM c      three quotes before the comment: the last of them is open
    "a" 1 "b"  REM "c     four: none is, and the one in the comment does not count

A string takes its quotes in pairs, and no other lexeme but a comment has any, unless a quote has no
other after it on the line (`Cut.even_count`, `Cut.exists_open_quote`).  So what a run reports about
quotes on a line is decided by their number before the comment (`QuoteParity`), whatever becomes of
an open one.
-/

namespace BasicTokens

open Character Grammar Text

namespace Lexeme

variable {settings : Settings} {category : Category} {p : Position} {s t u v w rest before : Text}
  {lexemes : List Lexeme} {l : Lexeme} {reports : List Diagnostic}

/-! ## The quotes of a lexeme -/

/-- **A lexeme has an even number of quotes**, if it is no comment and was not made of an open
quote. -/
theorem Cut.even_count (h : Cut settings category s rest) (hcomment : category ≠ .comment)
    (hquote : ¬ OfOpenQuote category s) : Even (s.count '"') := by
  have hnone : '"' ∉ s → Even (s.count '"') := fun hs => by
    rw [List.count_eq_zero.mpr hs]
    exact Even.zero
  have hdigits : ∀ {t : Text}, (∀ c ∈ t, c.isDigit = true) → '"' ∉ t := fun ht hmem =>
    absurd (ht _ hmem) (by decide)
  cases h with
  | comment => exact absurd rfl hcomment
  | @closedString inner _ plain =>
    have hinner : inner.count '"' = 0 := List.count_eq_zero.mpr fun hmem => (plain _ hmem).1 rfl
    simp [hinner]
  | openString _ plain =>
    exact absurd (Or.inr ⟨rfl, isStringLiteral_open fun h => (plain _ h).1 rfl⟩) hquote
  | integer _ digits => exact hnone (hdigits digits)
  | decimal _ digits _ fractionDigits =>
    refine hnone ?_
    simp [hdigits digits, hdigits fractionDigits]
  | word name =>
    exact hnone fun hmem => ne_quote_of_isNamePart ((isIdentifier_iff.mp name).2 _ hmem) rfl
  | relational pair =>
    obtain ⟨c, d, rfl, hc, hd⟩ := exists_of_mem_pairs pair
    refine hnone fun hmem => ?_
    obtain rfl | rfl : '"' = c ∨ '"' = d := by simpa using hmem
    · exact absurd hc (by decide)
    · exact absurd hd (by decide)
  | single symbol =>
    refine hnone fun hmem => ?_
    obtain rfl := List.mem_singleton.mp hmem
    exact absurd symbol (by decide)
  | rejectedQuote => exact absurd (Or.inl ⟨rfl, rfl⟩) hquote
  | stray _ notQuote => exact hnone fun hmem => notQuote (List.mem_singleton.mp hmem).symm

/-- **What is made of an open quote begins with it**, and no other comes after it on the line. -/
theorem Cut.exists_open_quote (h : Cut settings category s rest)
    (hquote : OfOpenQuote category s) :
    ∃ inner, s = '"' :: inner ∧ '"' ∉ inner ∧ '"' ∉ rest.line := by
  obtain ⟨rfl, rfl⟩ | ⟨rfl, hopen⟩ := hquote
  · obtain ⟨-, -, hunclosed⟩ | ⟨c, hc, hne, -⟩ := h.stray_cases
    · exact ⟨[], rfl, List.not_mem_nil, hunclosed⟩
    · exact absurd (List.singleton_inj.mp hc).symm hne
  · cases h with
    | closedString plain =>
      exact absurd (isStringLiteral_closed fun h => (plain _ h).1 rfl) (by simp [hopen])
    | @openString inner _ policy plain trimmed tail =>
      exact ⟨inner, rfl, fun hmem => (plain _ hmem).1 rfl,
        fun hmem => ne_quote_of_isBlank (tail _ hmem) rfl⟩

/-! ## What is reported about quotes -/

/-- What is reported about open quotes among some lexemes. -/
def quoteReports (settings : Settings) (lexemes : List Lexeme) : List Diagnostic :=
  (lexemes.filterMap (·.diagnostic? settings)).filter (·.code == some .unterminatedString)

theorem quoteReports_cons (settings : Settings) (l : Lexeme) (lexemes : List Lexeme) :
    quoteReports settings (l :: lexemes)
      = (l.diagnostic? settings).toList.filter (·.code == some .unterminatedString)
        ++ quoteReports settings lexemes := by
  rw [quoteReports, filterMap_diagnostic?_cons, List.filter_append, quoteReports]

/-- A report is placed at its lexeme. -/
theorem span_of_diagnostic? {d : Diagnostic} (hd : l.diagnostic? settings = some d) :
    d.span = l.span := by
  obtain ⟨error, -, rfl⟩ := Option.map_eq_some_iff.mp hd
  exact error.span_report l.span

/-- **Only what was made of an open quote is reported as such.** -/
theorem Cut.code_ne_of_not_ofOpenQuote (h : Cut settings category s rest)
    (hquote : ¬ OfOpenQuote category s) {d : Diagnostic}
    (hd : (placed category s p).diagnostic? settings = some d) :
    d.code ≠ some .unterminatedString := by
  rw [h.diagnostic?_placed] at hd
  split at hd
  case isFalse => simp at hd
  case isTrue hfaulty =>
    obtain rfl := Option.some.inj hd
    have htext := Token.text_of_isFaulty hfaulty
    have hblame : ¬ ((Token.ofTrimmed settings s p.offset).kind = .string ∨
        (Token.ofTrimmed settings s p.offset).text = ['"']) := by
      rintro (hstring | hone)
      · obtain rfl : category = .string := List.mem_singleton.mp (h.category_of_kind hstring)
        obtain hkind | ⟨-, hopen⟩ := Token.isFaulty_iff.mp hfaulty
        · simp [hkind] at hstring
        · exact hquote (Or.inr ⟨rfl, htext ▸ hopen⟩)
      · obtain rfl : s = ['"'] := htext.symm.trans hone
        obtain hkind | ⟨hstring, hopen⟩ := Token.isFaulty_iff.mp hfaulty
        · exact hquote (Or.inl ⟨List.mem_singleton.mp (h.category_of_kind hkind), rfl⟩)
        · exact hquote (Or.inr ⟨List.mem_singleton.mp (h.category_of_kind hstring), htext ▸ hopen⟩)
    rw [LexicalError.code_report, Token.code_fault, if_neg hblame]
    decide

theorem Cut.quoteReports_cons_of_not (h : Cut settings category s rest)
    (hquote : ¬ OfOpenQuote category s) :
    quoteReports settings (placed category s p :: lexemes) = quoteReports settings lexemes := by
  rw [quoteReports_cons, List.filter_eq_nil_iff.mpr, List.nil_append]
  intro d hd
  simpa using h.code_ne_of_not_ofOpenQuote hquote (Option.mem_toList.mp hd)

theorem Cut.quoteReports_cons_of_open (h : Cut settings category s rest)
    (hquote : OfOpenQuote category s) :
    ∃ d, d.span.start = p.byte ∧
      quoteReports settings (placed category s p :: lexemes)
        = d :: quoteReports settings lexemes := by
  obtain ⟨d, hd, hcode⟩ := h.diagnostic?_of_ofOpenQuote hquote p
  refine ⟨d, by rw [span_of_diagnostic? hd]; rfl, ?_⟩
  rw [quoteReports_cons, hd, Option.toList_some, List.filter_cons_of_pos (by simp [hcode])]
  rfl

/-! ## The part of a line before its comment -/

/-- The part of a line before its comment, and all of the line if it has none.  The line begins at
the character offset `start`, and `lexemes` are those on it. -/
def beforeComment (start : Nat) (line : Text) (lexemes : List Lexeme) : Text :=
  match lexemes.find? (·.category == .comment) with
  | some l => line.take (l.offset - start)
  | none => line

theorem beforeComment_comment (w rest : Text) (s : Text) (p : Position) (lexemes : List Lexeme) :
    beforeComment p.offset (w ++ rest) (placed .comment s (p.after w) :: lexemes) = w := by
  have hoffset : (placed .comment s (p.after w)).offset - p.offset = w.length := by
    rw [placed, Position.offset_after, Nat.add_sub_cancel_left]
  have hfind : (placed .comment s (p.after w) :: lexemes).find? (·.category == .comment)
      = some (placed .comment s (p.after w)) := List.find?_cons_of_pos rfl
  simp only [beforeComment, hfind, hoffset, List.take_left]

/-- Another lexeme belongs to that part. -/
theorem Scan.beforeComment_cons (h : Scan settings ((p.after w).after s) rest lexemes)
    (hcomment : category ≠ .comment) :
    beforeComment p.offset (w ++ (s ++ rest)) (placed category s (p.after w) :: lexemes)
      = w ++ (s ++ beforeComment ((p.after w).after s).offset rest lexemes) := by
  have hhead : (placed category s (p.after w)).category ≠ .comment := hcomment
  rw [beforeComment, beforeComment, List.find?_cons_of_neg (by simpa using hhead)]
  rcases hfind : lexemes.find? (·.category == .comment) with _ | l <;> simp only [hfind]
  · have hle := (h.offset_mem (List.mem_of_find?_eq_some hfind)).1
    have hoffset : ((p.after w).after s).offset = p.offset + w.length + s.length := by
      rw [Position.offset_after, Position.offset_after]
    have hdrop : l.offset - p.offset
        = w.length + (s.length + (l.offset - ((p.after w).after s).offset)) := by omega
    rw [hdrop, List.take_length_add_append, List.take_length_add_append]

theorem mem_of_mem_beforeComment {start : Nat} {c : Char}
    (h : c ∈ beforeComment start t lexemes) : c ∈ t := by
  unfold beforeComment at h
  split at h
  · exact List.mem_of_mem_take h
  · exact h

/-! ## Counting -/

/-- **Quotes and what is reported about them**: if they are even in number, nothing is; otherwise
one report is, and it begins at the last of them. -/
inductive QuoteParity (p : Position) : Text → List Diagnostic → Prop
  | closed {t : Text} (even : Even (t.count '"')) : QuoteParity p t []
  | opened {u v : Text} {d : Diagnostic} (even : Even (u.count '"')) (last : '"' ∉ v)
      (start_eq : d.span.start = (p.after u).byte) : QuoteParity p (u ++ '"' :: v) [d]

namespace QuoteParity

/-- **Text with quotes in pairs** can be put in front. -/
theorem append (h : QuoteParity (p.after s) t reports) (hs : Even (s.count '"')) :
    QuoteParity p (s ++ t) reports := by
  cases h with
  | closed even => exact .closed (by rw [List.count_append]; exact hs.add even)
  | @opened u v d even last start_eq =>
    rw [← Position.after_append] at start_eq
    rw [← List.append_assoc]
    exact .opened (by rw [List.count_append]; exact hs.add even) last start_eq

/-- Without quotes, nothing is reported about any. -/
theorem eq_nil (h : QuoteParity p t reports) (ht : '"' ∉ t) : reports = [] := by
  cases h with
  | closed => rfl
  | opened => simp at ht

theorem length_le (h : QuoteParity p t reports) : reports.length ≤ 1 := by
  cases h <;> simp

theorem ne_nil_iff (h : QuoteParity p t reports) : reports ≠ [] ↔ Odd (t.count '"') := by
  cases h with
  | closed even => simpa using even
  | @opened u v d even last =>
    have hcount : (u ++ '"' :: v).count '"' = u.count '"' + 1 := by
      rw [List.count_append, List.count_cons_self, List.count_eq_zero.mpr last]
    rw [hcount]
    simpa using even.add_one

theorem exists_last (h : QuoteParity p t reports) :
    ∀ d ∈ reports, ∃ u v, t = u ++ '"' :: v ∧ '"' ∉ v ∧ d.span.start = (p.after u).byte := by
  cases h with
  | closed => simp
  | @opened u v d even last start_eq =>
    intro e he
    obtain rfl := List.mem_singleton.mp he
    exact ⟨u, v, rfl, last, start_eq⟩

end QuoteParity

/-- **Quotes are counted over a scan of a line.** -/
theorem Scan.quoteParity (h : Scan settings p t lexemes) (ht : ∀ c ∈ t, isLineEnd c = false) :
    QuoteParity p (beforeComment p.offset t lexemes) (quoteReports settings lexemes) := by
  have hblanks : ∀ {w : Text}, (∀ c ∈ w, isBlank c = true) → Even (w.count '"') := fun hw => by
    rw [List.count_eq_zero.mpr fun hmem => ne_quote_of_isBlank (hw _ hmem) rfl]
    exact Even.zero
  induction h with
  | done blank => exact .closed (hblanks blank)
  | @cut p w s rest category lexemes blank front more ih =>
    simp only [List.forall_mem_append] at ht
    obtain ⟨-, -, hrest⟩ := ht
    have ih := ih hrest
    by_cases hcomment : category = .comment
    · -- the comment takes what is left of the line
      subst hcomment
      have hend : lexemes = [] := by
        cases front with
        | comment _ _ _ tail => exact more.unique (.done (line_eq_self hrest ▸ tail))
      rw [beforeComment_comment, front.quoteReports_cons_of_not (by simp [OfOpenQuote]), hend]
      exact .closed (hblanks blank)
    rw [more.beforeComment_cons hcomment]
    by_cases hquote : OfOpenQuote category s
    · -- no quote is left, and so no other report
      obtain ⟨inner, rfl, hinner, hunclosed⟩ := front.exists_open_quote hquote
      rw [line_eq_self hrest] at hunclosed
      have hnone : ∀ start, '"' ∉ beforeComment start rest lexemes := fun _ hmem =>
        hunclosed (mem_of_mem_beforeComment hmem)
      obtain ⟨d, hstart, hreports⟩ := front.quoteReports_cons_of_open hquote
      rw [hreports, ih.eq_nil (hnone _)]
      exact .opened (hblanks blank) (by simp [hinner, hnone]) hstart
    · rw [front.quoteReports_cons_of_not hquote]
      exact (ih.append (front.even_count hcomment hquote)).append (hblanks blank)

/-! ## The lines of a source -/

/-- **A lexeme begins on a line if its first byte is one of the line's.** -/
theorem isOnLine_eq_contains (hl : l ∈ ofSource settings (before ++ rest)) :
    isOnLine before rest l = decide (before.byteLength ≤ l.span.start ∧
      l.span.start < before.byteLength + rest.line.byteLength) := by
  obtain ⟨b, category, s, after, heq, -, rfl⟩ :=
    (scan_ofSource settings (before ++ rest)).exists_cut_of_mem hl
  obtain ⟨x, hrest, -⟩ := exists_line rest
  have hfrom := length_le_iff_byteLength_le heq
  have hto : (before ++ rest.line).length ≤ b.length ↔
      (before ++ rest.line).byteLength ≤ b.byteLength := by
    refine length_le_iff_byteLength_le (u := x) (v := s ++ after) ?_
    rw [List.append_assoc, ← hrest, heq]
  rw [List.length_append, byteLength_append] at hto
  have hoffset : (placed category s (Position.origin.after b)).offset = b.length :=
    (Position.offset_after _ _).trans (Nat.zero_add _)
  have hstart : (placed category s (Position.origin.after b)).span.start = b.byteLength :=
    (Position.byte_after _ _).trans (Nat.zero_add _)
  rw [Bool.eq_iff_iff, isOnLine_iff, decide_eq_true_iff, hoffset, hstart]
  omega

end Lexeme

open Lexeme

/-- What a run over the source `before ++ rest` reports about open quotes on the line after
`before`. -/
def openQuotes (settings : Settings) (before rest : Text) : List Diagnostic :=
  (tokenizeCollecting settings (before ++ rest)).2.filter fun d =>
    d.code == some .unterminatedString && decide (before.byteLength ≤ d.span.start ∧
      d.span.start < before.byteLength + rest.line.byteLength)

/-- It is what is reported about the lexemes of the line. -/
theorem openQuotes_eq (settings : Settings) (before rest : Text) :
    openQuotes settings before rest = quoteReports settings (ofLine settings before rest) := by
  rw [openQuotes, tokenizeCollecting_eq, quoteReports, ofLine, List.filter_filterMap,
    List.filter_filterMap, List.filterMap_filter]
  refine List.filterMap_congr fun l hl => ?_
  rw [isOnLine_eq_contains hl]
  rcases hd : l.diagnostic? settings with _ | d
  · simp
  · rw [← span_of_diagnostic? hd]
    by_cases hline : before.byteLength ≤ d.span.start ∧
        d.span.start < before.byteLength + rest.line.byteLength <;>
      simp [hline, Option.filter_some]

/-- **Open quotes are told by counting.**  On each line of a source, a run reports an open quote if
and only if the quotes before the comment of the line, or on the whole line if it has none, are odd
in number.  It reports one at most, and at the last of them. -/
theorem openQuotes_parity (settings : Settings) (source : Text) :
    ∀ before rest, source = before ++ rest → Text.BeginsLine before →
      let code := beforeComment before.length rest.line (ofLine settings before rest)
      let reports := openQuotes settings before rest
      reports.length ≤ 1 ∧ (reports ≠ [] ↔ Odd (code.count '"')) ∧
        ∀ d ∈ reports, ∃ u v, code = u ++ '"' :: v ∧ '"' ∉ v ∧
          d.span.start = (before ++ u).byteLength := by
  rintro before rest - hbefore
  have hparity := (scan_ofLine settings hbefore rest).quoteParity fun c => not_isLineEnd_of_mem_line
  have hoffset : (Position.origin.after before).offset = before.length :=
    (Position.offset_after _ _).trans (Nat.zero_add _)
  rw [hoffset, ← openQuotes_eq] at hparity
  refine ⟨hparity.length_le, hparity.ne_nil_iff, fun d hd => ?_⟩
  obtain ⟨u, v, hcode, hlast, hstart⟩ := hparity.exists_last d hd
  refine ⟨u, v, hcode, hlast, hstart.trans ?_⟩
  rw [← Position.after_append, Position.byte_after, Position.origin, Nat.zero_add]

/-- On the second line the third quote is open, and a comment follows it. -/
theorem openQuotes_parity_second_line :
    let before : Text := "X\n".toList
    let rest : Text := "\"a\" \"b REM c\n\"".toList
    let code := beforeComment before.length rest.line (ofLine {} before rest)
    BeginsLine before ∧ code = "\"a\" \"b ".toList ∧ openQuotes {} before rest ≠ [] ∧
      ∀ d ∈ openQuotes {} before rest, ∃ u v, code = u ++ '"' :: v ∧ '"' ∉ v ∧
        d.span.start = (before ++ u).byteLength := by
  intro before rest code
  have hbefore : BeginsLine before := Or.inr (by decide)
  have hcode : code = "\"a\" \"b ".toList := by decide +kernel
  obtain ⟨-, hodd, hlast⟩ := openQuotes_parity {} (before ++ rest) before rest rfl hbefore
  refine ⟨hbefore, hcode, hodd.mpr ?_, hlast⟩
  rw [show beforeComment before.length rest.line (ofLine {} before rest) = _ from hcode]
  decide

end BasicTokens
