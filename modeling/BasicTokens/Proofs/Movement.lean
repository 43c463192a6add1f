import BasicTokens.Cursor
import BasicTokens.Proofs.Coordinates

/-!
# Proofs/Movement — a cursor's coordinates stay in step, whatever its movements

    source   passed │ rest
                    ▲ byte, offset, line and column of what is passed

Every movement reads some of the characters that are left (`Cursor.exists_forward`), so any number
of movements reads the text passed up to there (`Cursor.Reads.exists_moveAll`).  From that text
alone follow the four coordinates and where the source is cut (`Cursor.Reads.standsAfter`): it does
not matter which movements led to a place, nor whether a number of bytes ended inside a character or
past the end of the source.
-/

namespace BasicTokens

open Text

namespace Cursor

variable {k : Cursor} {passed : Text}

/-- The cursor after movements made one after the other. -/
def moveAll (k : Cursor) (moves : List Move) : Cursor := moves.foldl move k

theorem moveAll_concat (k : Cursor) (moves : List Move) (m : Move) :
    k.moveAll (moves ++ [m]) = (k.moveAll moves).move m := by
  rw [moveAll, moveAll, List.foldl_concat]

/-! ## What a movement reads -/

/-- **A movement reads some of the characters that are left**, and nothing else. -/
theorem exists_forward (k : Cursor) (m : Move) : ∃ n, k.move m = k.forward n := by
  cases m with
  | advance => exact ⟨1, rfl⟩
  | advanceBytes n => exact ⟨k.rest.countWithin n, rfl⟩
  | skipWhile p => exact ⟨(k.rest.takeWhile p).length, rfl⟩

@[simp] theorem source_move (k : Cursor) (m : Move) : (k.move m).source = k.source := by
  obtain ⟨n, hmove⟩ := k.exists_forward m
  rw [hmove, source_forward]

/-- No movement goes back. -/
theorem byte_le_byte_move (k : Cursor) (m : Move) : k.position.byte ≤ (k.move m).position.byte := by
  obtain ⟨n, hmove⟩ := k.exists_forward m
  rw [hmove, byte_forward]
  exact Nat.le_add_right _ _

theorem Reads.exists_move (h : k.Reads passed) (m : Move) :
    ∃ moved, (k.move m).Reads (passed ++ moved) := by
  obtain ⟨n, hmove⟩ := k.exists_forward m
  exact ⟨k.rest.take n, hmove ▸ h.forward n⟩

@[simp] theorem source_moveAll (k : Cursor) (moves : List Move) :
    (k.moveAll moves).source = k.source := by
  induction moves using List.reverseRecOn with
  | nil => rfl
  | append_singleton moves m ih => rw [moveAll_concat, source_move, ih]

/-- **Any movements read on** from the text passed before them. -/
theorem Reads.exists_moveAll (h : k.Reads passed) (moves : List Move) :
    ∃ moved, (k.moveAll moves).Reads (passed ++ moved) := by
  induction moves using List.reverseRecOn with
  | nil => exact ⟨[], (List.append_nil passed).symm ▸ h⟩
  | append_singleton moves m ih =>
    obtain ⟨moved, hreads⟩ := ih
    obtain ⟨more, hmore⟩ := hreads.exists_move m
    exact ⟨moved ++ more, by rwa [moveAll_concat, ← List.append_assoc]⟩

/-- So any movements in a source read a text. -/
theorem exists_reads_moveAll (source : Text) (moves : List Move) :
    ((ofSource source).moveAll moves).source = source ∧
      ∃ passed, ((ofSource source).moveAll moves).Reads passed := by
  obtain ⟨passed, hreads⟩ := (reads_ofSource source).exists_moveAll moves
  exact ⟨source_moveAll _ moves, [] ++ passed, hreads⟩

/-! ## Where a cursor stands -/

/-- **A cursor stands in its source right after `passed`**: it cuts the source there, between two
characters, and its coordinates are those of the text passed. -/
structure StandsAfter (passed source : Text) (k : Cursor) : Prop where
  whole : passed ++ k.rest = source
  before : source.takeBytes? k.position.byte = some passed
  remaining : source.dropBytes? k.position.byte = some k.rest
  byte_le : k.position.byte ≤ source.byteLength
  offset_eq : k.position.offset = passed.length
  line_eq : k.position.line = 1 + passed.count '\n'
  column_eq : k.position.column = 1 + (passed.rtakeWhile (· != '\n')).length

/-- The bytes before the cursor are those of what it has read. -/
theorem Reads.byte_eq (h : k.Reads passed) : k.position.byte = passed.byteLength := by
  rw [h.position_eq, Position.byte_after, Position.origin, Nat.zero_add]

/-- **What was read says where the cursor stands.** -/
theorem Reads.standsAfter (h : k.Reads passed) : StandsAfter passed k.source k := by
  have hbyte := h.byte_eq
  refine ⟨h.source_eq.symm, ?_, ?_, ?_, ?_, ?_, ?_⟩
  · rw [hbyte, h.source_eq, takeBytes?_byteLength_append]
  · rw [hbyte, h.source_eq, dropBytes?_byteLength_append]
  · rw [hbyte, h.source_eq, byteLength_append]
    exact Nat.le_add_right _ _
  · rw [h.position_eq, Position.offset_after, Position.origin, Nat.zero_add]
  · rw [h.position_eq, Position.line_after, Position.origin]
  · rw [h.position_eq, Position.column_origin_after]

/-- **Coordinates stay in step over any movements.**  A cursor that was moved any number of times in
any way stands after a text that it has passed, and one more movement takes it further on. -/
theorem standsAfter_moveAll (source : Text) (moves : List Move) :
    let k := (ofSource source).moveAll moves
    k.source = source ∧
      ∃ passed, StandsAfter passed source k ∧
        ∀ m, k.position.byte ≤ (k.move m).position.byte ∧
          ∃ moved, StandsAfter (passed ++ moved) source (k.move m) := by
  intro k
  obtain ⟨hsource, passed, hreads⟩ := exists_reads_moveAll source moves
  refine ⟨hsource, passed, hsource ▸ hreads.standsAfter, fun m => ⟨byte_le_byte_move k m, ?_⟩⟩
  obtain ⟨moved, hmoved⟩ := hreads.exists_move m
  have hsame : (k.move m).source = source := (source_move k m).trans hsource
  exact ⟨moved, hsame ▸ hmoved.standsAfter⟩

/-- A number of bytes that ends inside a character takes all of it; one past the end stops there. -/
example :
    ((ofSource "é\n@".toList).moveAll [.advanceBytes 1, .advance]).position = ⟨3, 2, 2, 1⟩ ∧
      ((ofSource "é\n@".toList).moveAll [.advanceBytes 1, .advanceBytes 9]).position
        = ⟨4, 3, 2, 2⟩ := by
  decide +kernel

end Cursor

end BasicTokens
