import Mathlib.Data.List.DropRight
import BasicTokens.Position

/-!
# Proofs/Coordinates — what the four coordinates count, and places further on

A line counts the line feeds passed and a column the characters since the last one; bytes and
characters are counted with the definition of a place.  A text on a later line is read at places
that are further on by a `Shift`, and reading keeps them so (`Position.step_shift`).
-/

namespace BasicTokens

open Text

/-! ## Coordinates of a text passed -/

namespace Position

theorem line_step (p : Position) (c : Char) :
    (p.step c).line = p.line + if c = '\n' then 1 else 0 := by
  unfold step; split <;> rfl

theorem column_step (p : Position) (c : Char) :
    (p.step c).column = if c = '\n' then 1 else p.column + 1 := by
  unfold step; split <;> rfl

/-- **Each line feed begins a line**, and nothing else does. -/
theorem line_after (p : Position) (t : Text) : (p.after t).line = p.line + t.count '\n' := by
  induction t generalizing p with
  | nil => rfl
  | cons c t ih =>
    rw [after_cons, ih, line_step, List.count_cons, Nat.add_assoc, Nat.add_comm (List.count '\n' t)]
    simp only [beq_iff_eq]

/-- **The column counts from the last line feed**, or from the start if there is none. -/
theorem column_origin_after (t : Text) :
    (origin.after t).column = 1 + (t.rtakeWhile (· != '\n')).length := by
  induction t using List.reverseRecOn with
  | nil => rfl
  | append_singleton t c ih =>
    rw [after_append, after_cons, after_nil, column_step, List.rtakeWhile_concat]
    rcases eq_or_ne c '\n' with rfl | hc
    · rw [if_pos rfl, if_neg (by simp), List.length_nil]
    · rw [if_neg hc, if_pos (by simpa using hc), List.length_append, List.length_singleton, ih,
        Nat.add_assoc]

end Position

/-! ## Places further on -/

/-- How much further something stands; its column is the same. -/
structure Shift where
  bytes : Nat
  characters : Nat
  lines : Nat

/-- How much further everything stands after a text and a line feed. -/
def Shift.past (a : Text) : Shift := ⟨a.byteLength + 1, a.length + 1, a.count '\n' + 1⟩

/-- The same span further on. -/
def Span.shift (a : Span) (d : Shift) : Span :=
  ⟨a.start + d.bytes, a.stop + d.bytes, a.line + d.lines, a.column⟩

variable {d : Shift}

namespace Position

/-- The same place further on. -/
def shift (p : Position) (d : Shift) : Position :=
  ⟨p.byte + d.bytes, p.offset + d.characters, p.line + d.lines, p.column⟩

theorem step_shift (p : Position) (c : Char) : (p.shift d).step c = (p.step c).shift d := by
  have hbyte := Nat.add_right_comm p.byte d.bytes c.utf8Size
  have hoffset := Nat.add_right_comm p.offset d.characters 1
  have hline := Nat.add_right_comm p.line d.lines 1
  unfold step shift
  split
  · rw [hbyte, hoffset, hline]
  · rw [hbyte, hoffset]

/-- A text and a line feed move the origin to the same column of a later line. -/
theorem origin_after_feed (a : Text) : origin.after (a ++ ['\n']) = origin.shift (.past a) := by
  rw [after_append, after_cons, after_nil, step, if_pos rfl, byte_after, offset_after, line_after,
    Nat.add_assoc, Nat.add_assoc, Nat.add_assoc]
  rfl

end Position

end BasicTokens
