import BasicTokens.Span

/-!
# Position — four coordinates kept in step

A place in a source is known by the bytes and by the characters before it, and by its line and
column.  `after` carries a position over a text one character at a time; `after_append` says that
carrying it over two parts in turn is carrying it over the whole.
-/

namespace BasicTokens

/-- A place between two characters of a source. -/
structure Position where
  /-- Bytes before this place. -/
  byte : Nat
  /-- Characters before this place. -/
  offset : Nat
  /-- Line, counted from one; only a line feed begins a new one. -/
  line : Nat
  /-- Column in characters, counted from one. -/
  column : Nat
deriving DecidableEq

namespace Position

/-- The place before the first character. -/
def origin : Position := ⟨0, 0, 1, 1⟩

/-- The place after one more character. -/
def step (p : Position) (c : Char) : Position :=
  if c = '\n' then ⟨p.byte + c.utf8Size, p.offset + 1, p.line + 1, 1⟩
  else ⟨p.byte + c.utf8Size, p.offset + 1, p.line, p.column + 1⟩

/-- The place after more text. -/
def after (p : Position) (t : Text) : Position := t.foldl step p

@[simp] theorem after_nil (p : Position) : p.after [] = p := rfl

@[simp] theorem after_cons (p : Position) (c : Char) (t : Text) :
    p.after (c :: t) = (p.step c).after t := rfl

theorem after_append (p : Position) (s t : Text) : p.after (s ++ t) = (p.after s).after t :=
  List.foldl_append

@[simp] theorem byte_step (p : Position) (c : Char) : (p.step c).byte = p.byte + c.utf8Size := by
  unfold step; split <;> rfl

@[simp] theorem offset_step (p : Position) (c : Char) : (p.step c).offset = p.offset + 1 := by
  unfold step; split <;> rfl

theorem byte_after (p : Position) (t : Text) : (p.after t).byte = p.byte + t.byteLength := by
  induction t generalizing p with
  | nil => simp
  | cons c t ih => simp [ih, Nat.add_assoc]

theorem offset_after (p : Position) (t : Text) : (p.after t).offset = p.offset + t.length := by
  induction t generalizing p with
  | nil => simp
  | cons c t ih => simp [ih, Nat.add_assoc, Nat.add_comm 1]

end Position

end BasicTokens
