import BasicTokens.Proofs.Lines

/-!
# Proofs/LineScan — the lexemes of one line

A line begins at the start of a source and after every line end, and goes on up to the next one.
Its lexemes are those of the source that begin on it, and they are what is read from the line alone,
at its place (`scan_ofLine`).
-/

namespace BasicTokens

open Character Text

/-- A line begins after `before`: at the start of a source, and after every line end. -/
def Text.BeginsLine (before : Text) : Prop := before = [] ∨ endsWith isLineEnd before = true

namespace Lexeme

/-- Whether a lexeme of the source `before ++ rest` begins on the line after `before`. -/
def isOnLine (before rest : Text) (l : Lexeme) : Bool :=
  before.length ≤ l.offset && l.offset < before.length + rest.line.length

/-- The lexemes of the source `before ++ rest` that begin on the line after `before`. -/
def ofLine (settings : Settings) (before rest : Text) : List Lexeme :=
  (ofSource settings (before ++ rest)).filter (isOnLine before rest)

variable {settings : Settings} {p : Position} {t before rest : Text} {lexemes : List Lexeme}
  {l : Lexeme}

theorem isOnLine_iff : isOnLine before rest l = true ↔
    before.length ≤ l.offset ∧ l.offset < before.length + rest.line.length := by
  simp [isOnLine]

/-- Every text can be read from every place. -/
theorem exists_scan (settings : Settings) (p : Position) (t : Text) :
    ∃ lexemes, Scan settings p t lexemes :=
  ⟨_, (⟨settings, ⟨t, t, p⟩⟩ : Scanner).scan_lexemes⟩

/-- The lexemes of a text begin in it. -/
theorem Scan.offset_mem (h : Scan settings p t lexemes) (hl : l ∈ lexemes) :
    p.offset ≤ l.offset ∧ l.offset < p.offset + t.length := by
  obtain ⟨before, category, s, after, rfl, hcut, rfl⟩ := h.exists_cut_of_mem hl
  have hpos := List.length_pos_iff.mpr hcut.ne_nil
  have hoffset : (placed category s (p.after before)).offset = p.offset + before.length :=
    Position.offset_after p before
  simp only [hoffset, List.length_append]
  omega

/-- **What stands before a line is read by itself**, and its lexemes begin there. -/
theorem exists_scan_before (settings : Settings) (hbefore : BeginsLine before) (rest : Text) :
    ∃ earlier, (∀ l ∈ earlier, l.offset < before.length) ∧ ∀ {lexemes},
      Scan settings (Position.origin.after before) rest lexemes →
        Scan settings .origin (before ++ rest) (earlier ++ lexemes) := by
  obtain rfl | hend := hbefore
  · exact ⟨[], by simp, fun hscan => hscan⟩
  · obtain rfl | ⟨text, c, rfl⟩ := before.eq_nil_or_concat'
    · simp at hend
    obtain ⟨earlier, hearlier⟩ := exists_scan settings .origin text
    refine ⟨earlier, fun l hl => ?_, fun {lexemes} hscan => ?_⟩
    · have := (hearlier.offset_mem hl).2
      simp only [Position.origin, List.length_append, List.length_singleton] at this ⊢
      omega
    · rw [List.append_assoc]
      exact hearlier.append_lineEnd (by simpa using hend) hscan

/-- **The lexemes of a line are read from the line alone**, at its place. -/
theorem scan_ofLine (settings : Settings) (hbefore : BeginsLine before) (rest : Text) :
    Scan settings (Position.origin.after before) rest.line (ofLine settings before rest) := by
  obtain ⟨u, hrest, hu⟩ := exists_line rest
  obtain ⟨earlier, hearlier, hscan⟩ := exists_scan_before settings hbefore rest
  obtain ⟨lexemes, hline⟩ := exists_scan settings (Position.origin.after before) rest.line
  obtain ⟨later, hlater⟩ := exists_scan settings ((Position.origin.after before).after rest.line) u
  have hread := hline.append hu hlater
  rw [← hrest] at hread
  have hoffset : (Position.origin.after before).offset = before.length := by
    rw [Position.offset_after, Position.origin, Nat.zero_add]
  have hout : earlier.filter (isOnLine before rest) = [] :=
    List.filter_eq_nil_iff.mpr fun l hl => by
      have := hearlier l hl
      rw [isOnLine_iff]
      omega
  have hon : lexemes.filter (isOnLine before rest) = lexemes :=
    List.filter_eq_self.mpr fun l hl => by
      have := hline.offset_mem hl
      rw [isOnLine_iff]
      omega
  have hpast : later.filter (isOnLine before rest) = [] :=
    List.filter_eq_nil_iff.mpr fun l hl => by
      have := (hlater.offset_mem hl).1
      rw [Position.offset_after] at this
      rw [isOnLine_iff]
      omega
  rw [ofLine, (hscan hread).ofSource_eq, List.filter_append, List.filter_append, hout, hon, hpast,
    List.append_nil, List.nil_append]
  exact hline

end Lexeme

end BasicTokens
