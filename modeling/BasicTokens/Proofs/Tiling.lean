import BasicTokens.Proofs.Coordinates
import BasicTokens.Proofs.Scan

/-!
# Proofs/Tiling — the lexemes of a source tile it, with exact coordinates

A lexeme is a part of the source at the place its offset and its span say; the parts follow one
another without overlap, and between them there are only blanks.  Every lexeme of a derivation is a
cut placed after the text before it (`Scan.exists_cut_of_mem`), from which order and coordinates
follow; that nothing but blanks is left out is an induction of its own (`Scan.covers`).
-/

namespace BasicTokens

open Character Text

namespace Lexeme

variable {settings : Settings} {p : Position} {t : Text} {lexemes : List Lexeme} {l : Lexeme}

/-! ## Order and cover -/

/-- A lexeme begins where the text does or later. -/
theorem Scan.byte_le_start (h : Scan settings p t lexemes) (hl : l ∈ lexemes) :
    p.byte ≤ l.span.start := by
  obtain ⟨before, category, s, after, -, -, rfl⟩ := h.exists_cut_of_mem hl
  exact (Nat.le_add_right _ _).trans_eq (Position.byte_after p before).symm

/-- **One lexeme ends before the next begins.** -/
theorem Scan.pairwise (h : Scan settings p t lexemes) :
    lexemes.Pairwise fun l m => l.span.stop ≤ m.span.start := by
  induction h with
  | done => exact .nil
  | @cut p w s rest category lexemes blank front more ih =>
    refine .cons ?_ ih
    intro m hm
    have hle := more.byte_le_start hm
    rwa [Position.byte_after (p.after w) s] at hle

/-- A place in two parts is in the first or in the second. -/
theorem append_eq_append_cons {u v before after : Text} {c : Char}
    (h : u ++ v = before ++ c :: after) :
    (∃ x, u = before ++ c :: x) ∨ ∃ x, before = u ++ x ∧ v = x ++ c :: after := by
  rcases List.append_eq_append_iff.mp h with ⟨x, hbefore, hv⟩ | ⟨_ | ⟨d, x⟩, hu, hcons⟩
  · exact Or.inr ⟨x, hbefore, hv⟩
  · exact Or.inr ⟨[], by simpa using hu.symm, by simpa using hcons.symm⟩
  · obtain ⟨rfl, -⟩ : c = d ∧ after = x ++ v := by simpa using hcons
    exact Or.inl ⟨x, hu⟩

/-- **A character that is no blank lies in a lexeme.** -/
theorem Scan.covers (h : Scan settings p t lexemes) {before after : Text} {c : Char}
    (ht : t = before ++ c :: after) :
    isBlank c = true ∨ ∃ l ∈ lexemes, l.span.contains (p.byte + before.byteLength) = true := by
  induction h generalizing before with
  | done blank => exact Or.inl (blank c (by simp [ht]))
  | @cut p w s rest category lexemes blank front more ih =>
    rcases append_eq_append_cons ht with ⟨x, rfl⟩ | ⟨before, rfl, hrest⟩
    · exact Or.inl (blank c (by simp))
    rcases append_eq_append_cons hrest with ⟨x, rfl⟩ | ⟨before, rfl, hmore⟩
    · refine Or.inr ⟨_, List.mem_cons_self, (Span.mem_contains_iff _ _).mpr ?_⟩
      have hc := c.utf8Size_pos
      simp only [placed, Position.byte_after, byteLength_append, byteLength_cons]
      omega
    · rcases ih hmore with hblank | ⟨l, hl, hin⟩
      · exact Or.inl hblank
      · refine Or.inr ⟨l, List.mem_cons_of_mem _ hl, ?_⟩
        simpa only [Position.byte_after, byteLength_append, Nat.add_assoc] using hin

/-! ## The tiling -/

/-- The lexeme stands in the source right after `before`, and its coordinates say so. -/
structure StandsAfter (before : Text) (source : Text) (l : Lexeme) : Prop where
  source_eq : ∃ after, source = before ++ (l.text ++ after)
  start_eq : l.span.start = before.byteLength
  stop_eq : l.span.stop = before.byteLength + l.text.byteLength
  selected : l.span.select? source = some l.text
  offset_eq : l.offset = before.length
  line_eq : l.span.line = 1 + before.count '\n'
  column_eq : l.span.column = 1 + (before.rtakeWhile (· != '\n')).length

/-- **What it means to cut a source into lexemes**: they stand in it one after the other, none is
empty or has a blank at an end, and only blanks are left over. -/
structure Tiles (source : Text) (lexemes : List Lexeme) : Prop where
  nonempty : ∀ l ∈ lexemes, l.text ≠ []
  trimmed : ∀ l ∈ lexemes, beginsWith isBlank l.text = false ∧ endsWith isBlank l.text = false
  placed : ∀ l ∈ lexemes, ∃ before, StandsAfter before source l
  ordered : lexemes.Pairwise fun l m => l.span.stop ≤ m.span.start
  covered : ∀ (before after : Text) (c : Char), source = before ++ c :: after →
    isBlank c = true ∨ ∃ l ∈ lexemes, l.span.contains before.byteLength = true

/-- A text placed after what comes before it stands there. -/
theorem standsAfter_placed (category : Category) (before s after : Text) :
    StandsAfter before (before ++ (s ++ after))
      (placed category s (Position.origin.after before)) where
  source_eq := ⟨after, rfl⟩
  start_eq := (Position.byte_after _ _).trans (Nat.zero_add _)
  stop_eq := by
    change (Position.origin.after before).byte + byteLength s = _
    rw [Position.byte_after, Position.origin, Nat.zero_add]
    rfl
  selected := by
    change slice? (Position.origin.after before).byte
      ((Position.origin.after before).byte + byteLength s) _ = _
    rw [Position.byte_after, Position.origin, Nat.zero_add]
    exact slice?_append before s after
  offset_eq := (Position.offset_after _ _).trans (Nat.zero_add _)
  line_eq := Position.line_after _ _
  column_eq := Position.column_origin_after _

/-- **The lexemes of a source tile it**, whatever the settings. -/
theorem tiles_ofSource (settings : Settings) (source : Text) :
    Tiles source (ofSource settings source) := by
  have hscan := scan_ofSource settings source
  refine ⟨?_, ?_, ?_, hscan.pairwise, ?_⟩
  · intro l hl
    obtain ⟨before, category, s, after, -, hcut, rfl⟩ := hscan.exists_cut_of_mem hl
    exact hcut.ne_nil
  · intro l hl
    obtain ⟨before, category, s, after, -, hcut, rfl⟩ := hscan.exists_cut_of_mem hl
    exact ⟨hcut.beginsWith_isBlank, hcut.endsWith_isBlank⟩
  · intro l hl
    obtain ⟨before, category, s, after, rfl, hcut, rfl⟩ := hscan.exists_cut_of_mem hl
    exact ⟨before, standsAfter_placed category before s after⟩
  · intro before after c h
    simpa [Position.origin] using hscan.covers h

end Lexeme

end BasicTokens
