import BasicTokens.Proofs.LineScan

/-!
# Proofs/Remarks — what recognizing the comment marker in any case changes

    exact      front  name  back
    any case   front  the rest of the line

With the marker in any case, only a name that begins with it is read in another way
(`Cut.any_case`): it opens a comment, which takes the rest of its line (`scan_comment`).  The next
line is read from its own start, so the two readings of a source differ line by line and on each
from the first such name on (`Remarked`).
-/

namespace BasicTokens

open Character Grammar Text

namespace Lexeme

/-- Whether a lexeme is a name that begins with the comment marker in some case. -/
def isRemarkName (l : Lexeme) : Bool := l.category == .word && startsRemark true l.text

variable {settings : Settings} {policy : UnterminatedStrings} {category : Category} {p : Position}
  {s t w rest : Text} {exact anyCase : List Lexeme} {l : Lexeme}

theorem isRemarkName_iff :
    l.isRemarkName = true ↔ l.category = .word ∧ startsRemark true l.text = true := by
  simp [isRemarkName]

/-! ## Where the two readings part -/

/-- **A cut is one with the marker in any case too**, unless it is a name that begins with it. -/
theorem Cut.any_case (h : Cut ⟨policy, false⟩ category s rest)
    (hname : ¬ (category = .word ∧ startsRemark true s = true)) :
    Cut ⟨policy, true⟩ category s rest := by
  cases h with
  | comment marker inLine trimmed tail =>
    exact .comment (startsRemark_of_exact marker true) inLine trimmed tail
  | closedString plain => exact .closedString plain
  | openString extends_ plain trimmed tail => exact .openString extends_ plain trimmed tail
  | integer nonempty digits stop noFraction => exact .integer nonempty digits stop noFraction
  | decimal nonempty digits nonemptyFraction fractionDigits stop =>
    exact .decimal nonempty digits nonemptyFraction fractionDigits stop
  | word name noMarker stop =>
    exact .word name (Bool.eq_false_iff.mpr fun marker => hname ⟨rfl, marker⟩) stop
  | relational pair => exact .relational pair
  | single symbol alone => exact .single symbol alone
  | rejectedQuote rejects unclosed => exact .rejectedQuote rejects unclosed
  | stray notBlank notQuote notDigit notName notSymbol =>
    exact .stray notBlank notQuote notDigit notName notSymbol

/-- **A comment takes the rest of its line**, less the blanks at the end. -/
theorem scan_comment (hmarker : startsRemark settings.caseInsensitiveRemarks t = true)
    (ht : ∀ c ∈ t, isLineEnd c = false) (p : Position) :
    Scan settings p t [placed .comment (trimEnd isBlank t) p] := by
  obtain ⟨s, rest, rfl, hcut⟩ := exists_cut_comment hmarker
  have hblank : ∀ c ∈ rest, isBlank c = true := by
    cases hcut with
    | comment _ _ _ tail =>
      rwa [line_eq_self fun c hc => ht c (List.mem_append_right s hc)] at tail
  rw [trimEnd_append hcut.endsWith_isBlank hblank]
  exact .cut (w := []) (by simp) hcut (.done hblank)

/-! ## A line under both markers -/

/-- **How the lexemes of a line compare**: they are the same if no name begins with the marker.
Otherwise they are the same up to the first such name, and the comment that takes its place is the
rest of the line without the blanks at its end. -/
inductive Remarked (p : Position) (t : Text) : List Lexeme → List Lexeme → Prop
  | same {lexemes : List Lexeme} (none : ∀ l ∈ lexemes, l.isRemarkName = false) :
      Remarked p t lexemes lexemes
  | differ (u name v : Text) (front back : List Lexeme) (line_eq : t = u ++ (name ++ v))
      (first : ∀ l ∈ front, l.isRemarkName = false)
      (marker : (placed .word name (p.after u)).isRemarkName = true) :
      Remarked p t (front ++ placed .word name (p.after u) :: back)
        (front ++ [placed .comment (trimEnd isBlank (name ++ v)) (p.after u)])

/-- **One more lexeme in front**, the same under both markers. -/
theorem Remarked.cons (h : Remarked (p.after w) t exact anyCase) (hl : l.isRemarkName = false) :
    Remarked p (w ++ t) (l :: exact) (l :: anyCase) := by
  cases h with
  | same none => exact .same (List.forall_mem_cons.mpr ⟨hl, none⟩)
  | differ u name v front back line_eq first marker =>
    rw [← Position.after_append] at marker ⊢
    refine .differ (w ++ u) name v (l :: front) back ?_ (List.forall_mem_cons.mpr ⟨hl, first⟩) marker
    rw [line_eq, List.append_assoc]

/-- **The rest of a line under both markers.** -/
theorem Scan.remarked (h : Scan ⟨policy, false⟩ p t exact) (ht : ∀ c ∈ t, isLineEnd c = false) :
    ∃ anyCase, Scan ⟨policy, true⟩ p t anyCase ∧ Remarked p t exact anyCase := by
  induction h with
  | done blank => exact ⟨[], .done blank, .same (by simp)⟩
  | @cut p w s rest category exact blank front more ih =>
    simp only [List.forall_mem_append] at ht
    obtain ⟨-, hs, hrest⟩ := ht
    by_cases hname : category = .word ∧ startsRemark true s = true
    · -- the comment takes what the other reading goes on to cut
      obtain ⟨rfl, hmarker⟩ := hname
      have hscan : Scan ⟨policy, true⟩ (p.after w) (s ++ rest) _ :=
        scan_comment (startsRemark_append_of_startsRemark hmarker rest)
          (List.forall_mem_append.mpr ⟨hs, hrest⟩) (p.after w)
      refine ⟨_, hscan.blank_append blank, ?_⟩
      exact .differ w s rest [] exact rfl (by simp) (isRemarkName_iff.mpr ⟨rfl, hmarker⟩)
    · obtain ⟨anyCase, hscan, hremarked⟩ := ih hrest
      refine ⟨_, .cut blank (front.any_case hname) hscan, ?_⟩
      rw [← List.append_assoc]
      rw [← Position.after_append] at hremarked
      exact hremarked.cons (Bool.eq_false_iff.mpr fun hl => hname (isRemarkName_iff.mp hl))

end Lexeme

open Lexeme

/-- **What recognizing the marker in any case changes.**  On every line of a source, the lexemes are
the same up to the first name that begins with the marker in some case, and from there on the rest
of the line is one comment (`Remarked`). -/
theorem remarked_ofLine (policy : UnterminatedStrings) (source : Text) :
    ∀ before rest, source = before ++ rest → BeginsLine before →
      Remarked (Position.origin.after before) rest.line (ofLine ⟨policy, false⟩ before rest)
        (ofLine ⟨policy, true⟩ before rest) := by
  intro before rest _ hbefore
  obtain ⟨anyCase, hscan, hremarked⟩ :=
    (scan_ofLine ⟨policy, false⟩ hbefore rest).remarked fun c => not_isLineEnd_of_mem_line
  rwa [(scan_ofLine ⟨policy, true⟩ hbefore rest).unique hscan]

/-- On the second line a marker in lower case takes an open quote with it. -/
theorem remarked_ofLine_second_line :
    let before : Text := "X\n".toList
    let rest : Text := "A rem \"1 \n2".toList
    BeginsLine before ∧
      Remarked (Position.origin.after before) rest.line (ofLine ⟨.reject, false⟩ before rest)
        (ofLine ⟨.reject, true⟩ before rest) ∧
      (ofLine ⟨.reject, false⟩ before rest).map Lexeme.category = [.word, .word, .stray, .number] ∧
      ofLine ⟨.reject, true⟩ before rest
        = [⟨.word, ['A'], 2, ⟨2, 3, 2, 1⟩⟩, ⟨.comment, "rem \"1".toList, 4, ⟨4, 10, 2, 3⟩⟩] := by
  intro before rest
  have hbefore : BeginsLine before := Or.inr (by decide)
  exact ⟨hbefore, remarked_ofLine .reject (before ++ rest) before rest rfl hbefore,
    by decide +kernel, by decide +kernel⟩

end BasicTokens
