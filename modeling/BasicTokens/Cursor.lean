import BasicTokens.Position

/-!
# Cursor — a place in a source and the text still unread there

Every movement is `forward` over a number of characters: one character, those that begin within a
number of bytes, or those that satisfy a predicate.  So the coordinates of any reachable cursor are
those of the text it has passed (`Reads.forward`).
-/

namespace BasicTokens

/-- A source, the part of it not yet read, and the place where that part begins. -/
structure Cursor where
  source : Text
  rest : Text
  position : Position
deriving DecidableEq

namespace Cursor

/-- The cursor before the first character of a source. -/
def ofSource (source : Text) : Cursor := ⟨source, source, .origin⟩

/-! ## Looking -/

/-- The character `n` places ahead. -/
def peek? (k : Cursor) (n : Nat) : Option Char := k.rest[n]?

/-- The character `n` places ahead, and NUL past the end. -/
def peek (k : Cursor) (n : Nat) : Char := (k.peek? n).getD '\x00'

/-- The next character, and NUL at the end. -/
def current (k : Cursor) : Char := k.peek 0

/-- Whether nothing is left to read. -/
def atEnd (k : Cursor) : Bool := k.rest.isEmpty

/-! ## Moving -/

/-- The cursor after the next `n` characters, or at the end if there are fewer. -/
def forward (k : Cursor) (n : Nat) : Cursor :=
  { k with rest := k.rest.drop n, position := k.position.after (k.rest.take n) }

/-- The cursor after the next character, if there is one. -/
def advance (k : Cursor) : Cursor := k.forward 1

/-- The cursor after the next `n` bytes.  A count that ends inside a character moves past it. -/
def advanceBytes (k : Cursor) (n : Nat) : Cursor := k.forward (k.rest.countWithin n)

/-- The cursor before the first character that fails `p`. -/
def skipWhile (k : Cursor) (p : Char → Bool) : Cursor := k.forward (k.rest.takeWhile p).length

/-- One movement of a cursor. -/
inductive Move where
  | advance
  | advanceBytes (n : Nat)
  | skipWhile (p : Char → Bool)

/-- The cursor after one movement. -/
def move (k : Cursor) : Move → Cursor
  | .advance => k.advance
  | .advanceBytes n => k.advanceBytes n
  | .skipWhile p => k.skipWhile p

/-! ## Looking back -/

/-- The span from an earlier place to the cursor. -/
def spanFrom (k : Cursor) (mark : Position) : Span :=
  ⟨mark.byte, k.position.byte, mark.line, mark.column⟩

/-- The source between a place and the cursor; none if the place lies after the cursor. -/
def sliceFrom? (k : Cursor) (mark : Position) : Option Text :=
  k.source.slice? mark.byte k.position.byte

/-- The text between the cursor and a later one of the same source. -/
def textTo (k later : Cursor) : Text := k.rest.take (later.position.offset - k.position.offset)

/-! ## The text passed -/

/-- The cursor has read `passed`: its source is that text and the rest, and its place is the one
after that text. -/
structure Reads (k : Cursor) (passed : Text) : Prop where
  source_eq : k.source = passed ++ k.rest
  position_eq : k.position = Position.origin.after passed

theorem reads_ofSource (source : Text) : (ofSource source).Reads [] := ⟨rfl, rfl⟩

@[simp] theorem source_forward (k : Cursor) (n : Nat) : (k.forward n).source = k.source := rfl

@[simp] theorem rest_forward (k : Cursor) (n : Nat) : (k.forward n).rest = k.rest.drop n := rfl

/-- **Moving forward reads the characters moved over.** -/
theorem Reads.forward {k : Cursor} {passed : Text} (h : k.Reads passed) (n : Nat) :
    (k.forward n).Reads (passed ++ k.rest.take n) where
  source_eq := by rw [source_forward, rest_forward, List.append_assoc, List.take_append_drop,
    h.source_eq]
  position_eq := by rw [Cursor.forward, h.position_eq, Position.after_append]

theorem offset_forward (k : Cursor) (n : Nat) :
    (k.forward n).position.offset = k.position.offset + (k.rest.take n).length :=
  Position.offset_after _ _

theorem byte_forward (k : Cursor) (n : Nat) :
    (k.forward n).position.byte = k.position.byte + Text.byteLength (k.rest.take n) :=
  Position.byte_after _ _

/-- The text between a cursor and the one `n` characters further is those characters. -/
theorem textTo_forward (k : Cursor) (n : Nat) : k.textTo (k.forward n) = k.rest.take n := by
  rw [textTo, offset_forward, Nat.add_sub_cancel_left, List.length_take, List.take_eq_take_iff]
  omega

/-- A positive number of bytes moves a cursor that is not at the end. -/
theorem length_rest_advanceBytes_lt {k : Cursor} {n : Nat} (hn : 0 < n) (hk : k.rest ≠ []) :
    (k.advanceBytes n).rest.length < k.rest.length := by
  have hpos := Text.countWithin_pos hn hk
  have hlen := List.length_pos_iff.mpr hk
  rw [advanceBytes, rest_forward, List.length_drop]
  omega

theorem length_rest_skipWhile_le (k : Cursor) (p : Char → Bool) :
    (k.skipWhile p).rest.length ≤ k.rest.length := by
  rw [skipWhile, rest_forward, List.length_drop]
  omega

end Cursor

end BasicTokens
