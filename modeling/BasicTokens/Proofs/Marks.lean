import BasicTokens.Proofs.Boundaries
import BasicTokens.Proofs.Movement

/-!
# Proofs/Marks — the text since a mark, and moves by a number of bytes

    source   passed │ between │ rest │ …
                  mark      later   cursor

A mark is the place of a cursor that was moved on since.  What it has read in between is the slice
from the mark, and the span from the mark selects the same (`Cursor.Reads.passedSince`).  A move by
a number of bytes is as many single steps as characters begin there, so it ends at the first
boundary that is not too early, and two such moves are one unless the first ends inside a character.
-/

namespace BasicTokens

open Text

namespace Cursor

variable {k later : Cursor} {passed moved : Text} {a : Nat}

/-! ## Since a mark -/

/-- **The text since a mark**: mark and cursor are boundaries of the source, in this order, so the
slice between them exists; the span from the mark selects it and has its length. -/
structure PassedSince (source : Text) (mark : Position) (text : Text) (k : Cursor) : Prop where
  boundaries : source.IsBoundary mark.byte ∧ source.IsBoundary k.position.byte
  byte_le : mark.byte ≤ k.position.byte
  slice_eq : k.sliceFrom? mark = some text
  select_eq : (k.spanFrom mark).select? source = some text
  length_eq : (k.spanFrom mark).length = text.byteLength

/-- The source between two places is what was read from one to the other. -/
theorem Reads.slice?_eq (h : k.Reads passed) (hlater : later.Reads (passed ++ moved)) :
    later.source.slice? k.position.byte later.position.byte = some moved := by
  rw [h.byte_eq, hlater.byte_eq, byteLength_append, hlater.source_eq, List.append_assoc]
  exact slice?_append passed moved later.rest

/-- A cursor stands at a boundary. -/
theorem Reads.isBoundary (h : k.Reads passed) : k.source.IsBoundary k.position.byte := by
  rw [h.byte_eq, h.source_eq]
  exact isBoundary_byteLength_append passed k.rest

/-- **What was read since a mark is the text since it.** -/
theorem Reads.passedSince (h : k.Reads passed) (hlater : later.Reads (passed ++ moved))
    (hsource : k.source = later.source) :
    PassedSince later.source k.position moved later := by
  have hslice := h.slice?_eq hlater
  have hbyte : later.position.byte = k.position.byte + moved.byteLength := by
    rw [h.byte_eq, hlater.byte_eq, byteLength_append]
  refine ⟨⟨hsource ▸ h.isBoundary, hlater.isBoundary⟩, ?_, hslice, hslice, ?_⟩
  · rw [hbyte]
    exact Nat.le_add_right _ _
  · rw [Span.length, spanFrom, hbyte, Nat.add_sub_cancel_left]

/-! ## Moves by bytes -/

theorem forward_forward (k : Cursor) (m n : Nat) :
    (k.forward m).forward n = k.forward (m + n) := by
  simp only [forward, List.drop_drop, ← Position.after_append, ← List.take_add]

/-- **Moving over characters is moving over each of them.** -/
theorem forward_eq_iterate (k : Cursor) (n : Nat) : k.forward n = advance^[n] k := by
  induction n with
  | zero => rfl
  | succ n ih => rw [Function.iterate_succ_apply', ← ih, advance, forward_forward]

/-- A move by bytes reads the characters that begin within them, one after the other. -/
theorem advanceBytes_eq_iterate (k : Cursor) (n : Nat) :
    k.advanceBytes n = advance^[(k.rest.take (k.rest.countWithin n)).length] k := by
  rw [List.length_take_of_le (countWithin_le_length n k.rest), ← forward_eq_iterate, advanceBytes]

/-- **A move by bytes ends at the first boundary that is not too early**, or at the end. -/
theorem Reads.isLeast_byte_advanceBytes (h : k.Reads passed) (n : Nat) :
    IsLeast {b | k.source.IsBoundary b ∧ min (k.position.byte + n) k.source.byteLength ≤ b}
      (k.advanceBytes n).position.byte := by
  obtain ⟨⟨hcut, hge⟩, hleast⟩ := isLeast_byteLength_take n k.rest
  rw [advanceBytes, byte_forward, h.byte_eq, h.source_eq, byteLength_append]
  refine ⟨⟨isBoundary_append_iff.mpr hcut, by omega⟩, ?_⟩
  rintro b ⟨hb, hbound⟩
  obtain ⟨m, rfl⟩ := Nat.exists_eq_add_of_le (by omega : passed.byteLength ≤ b)
  have hle := hleast ⟨isBoundary_append_iff.mp hb, by omega⟩
  omega

/-- **Two moves by bytes are one** if the first number of bytes ends at a boundary or past the end.
-/
theorem Reads.advanceBytes_advanceBytes (h : k.Reads passed)
    (ha : k.source.IsBoundary (k.position.byte + a) ∨ k.source.byteLength < k.position.byte + a)
    (b : Nat) : (k.advanceBytes a).advanceBytes b = k.advanceBytes (a + b) := by
  rw [h.byte_eq, h.source_eq, isBoundary_append_iff, byteLength_append] at ha
  have hrest : k.rest.IsBoundary a ∨ k.rest.byteLength < a := ha.imp_right (by omega)
  rw [advanceBytes, advanceBytes, advanceBytes, forward_forward, rest_forward, countWithin_add hrest]

/-! ## Marks of one cursor -/

/-- **Marks and moves compose.**  A cursor was marked, moved, marked again and moved.  The text
since the first mark is the source between the marks and the text since the second.  From there on,
a move by bytes ends at the first boundary that is not too early and is as many steps as characters
lie before it, and two such moves are one if the first ends at a boundary or past the end. -/
theorem marks_compose (source : Text) (toMark toLater toHere : List Move) :
    let marked := (ofSource source).moveAll toMark
    let later := marked.moveAll toLater
    let k := later.moveAll toHere
    (∃ between rest, PassedSince source marked.position (between ++ rest) k ∧
      source.slice? marked.position.byte later.position.byte = some between ∧
      k.sliceFrom? later.position = some rest) ∧
    (∀ n, ∃ moved,
      IsLeast {b | source.IsBoundary b ∧ min (k.position.byte + n) source.byteLength ≤ b}
        (k.advanceBytes n).position.byte ∧
      source.slice? k.position.byte (k.advanceBytes n).position.byte = some moved ∧
      k.advanceBytes n = advance^[moved.length] k) ∧
    ∀ a b, source.IsBoundary (k.position.byte + a) ∨ source.byteLength < k.position.byte + a →
      (k.advanceBytes a).advanceBytes b = k.advanceBytes (a + b) := by
  intro marked later k
  obtain ⟨hmarked, passed, hpassed⟩ := exists_reads_moveAll source toMark
  obtain ⟨between, hbetween⟩ := hpassed.exists_moveAll toLater
  obtain ⟨rest, hrest⟩ := hbetween.exists_moveAll toHere
  have hlater : later.source = source := (source_moveAll marked toLater).trans hmarked
  have hk : k.source = source := (source_moveAll later toHere).trans hlater
  refine ⟨⟨between, rest, ?_, ?_, hbetween.slice?_eq hrest⟩, fun n => ?_, fun a b ha => ?_⟩
  · rw [List.append_assoc] at hrest
    exact hk ▸ hpassed.passedSince hrest (hmarked.trans hk.symm)
  · exact hlater ▸ hpassed.slice?_eq hbetween
  · have hleast := hrest.isLeast_byte_advanceBytes n
    have hslice := hrest.slice?_eq (hrest.forward (k.rest.countWithin n))
    rw [source_forward, hk] at hslice
    exact ⟨_, hk ▸ hleast, hslice, advanceBytes_eq_iterate k n⟩
  · exact hrest.advanceBytes_advanceBytes (hk.symm ▸ ha) b

/-- Behind a line feed, two bytes end at a boundary. -/
theorem marks_compose_boundary :
    let k := (((ofSource "a\né@".toList).moveAll []).moveAll [.advance]).moveAll [.advanceBytes 1]
    Text.IsBoundary "a\né@".toList (k.position.byte + 2) ∧
      (k.advanceBytes 2).advanceBytes 1 = k.advanceBytes (2 + 1) := by
  intro k
  have hcut : Text.IsBoundary "a\né@".toList (k.position.byte + 2) := by decide +kernel
  exact ⟨hcut, (marks_compose _ [] [.advance] [.advanceBytes 1]).2.2 2 1 (Or.inl hcut)⟩

/-- A byte is not enough for `é`, so the move takes all of it, and one more byte the next character;
two bytes at once end before that. -/
example :
    let k := ofSource "é@".toList
    (k.advanceBytes 1).advanceBytes 1 ≠ k.advanceBytes 2 := by
  decide +kernel

end Cursor

end BasicTokens
