import BasicTokens.Text

/-!
# Span — a range of bytes and where it begins

A span pairs a half-open range of byte offsets with the line and the column of its first character.
Two spans merge into the least range that covers both, placed where the earlier one begins.
-/

namespace BasicTokens

/-- The bytes from `start` up to `stop`, beginning at `line` and `column`, both counted from one. -/
structure Span where
  start : Nat
  stop : Nat
  line : Nat
  column : Nat
deriving DecidableEq

namespace Span

/-- The span of what has no place in any source. -/
def nowhere : Span := ⟨0, 0, 0, 0⟩

/-- A place known only by line and column. -/
def point (line column : Nat) : Span := ⟨0, 0, line, column⟩

/-- The number of bytes covered; none if the range runs backwards. -/
def length (a : Span) : Nat := a.stop - a.start

/-- Whether the two ends coincide. -/
def isEmpty (a : Span) : Bool := a.start == a.stop

/-- Whether a byte offset lies in the range. -/
def contains (a : Span) (offset : Nat) : Bool := a.start ≤ offset && offset < a.stop

/-- The least range covering both, at the line and column of the one that starts first — of the
first one if they start together. -/
def merge (a b : Span) : Span :=
  let first := if b.start < a.start then b else a
  { start := min a.start b.start
    stop := max a.stop b.stop
    line := first.line
    column := first.column }

/-- The part of a source that the range selects, if it lies between characters inside it. -/
def select? (a : Span) (source : Text) : Option Text := source.slice? a.start a.stop

/-- `LINE:COLUMN`. -/
def render (a : Span) : Text := Text.decimal a.line ++ ':' :: Text.decimal a.column

theorem mem_contains_iff (a : Span) (offset : Nat) :
    a.contains offset = true ↔ a.start ≤ offset ∧ offset < a.stop := by
  simp [contains]

theorem merge_self (a : Span) : a.merge a = a := by simp [merge]

end Span

end BasicTokens
