import Mathlib.Data.Set.Card
import Mathlib.Order.Interval.Finset.Nat
import BasicTokens.Proofs.Merging

/-!
# Proofs/Readings — one pair of ends, read in several ways

    start ≤ stop    length stop - start,  the offsets from start up to stop,  empty if the ends coincide
    stop < start    length zero,          no offset,                          not empty: the ends differ

The length of a span is the number of its offsets and of the bytes of whatever it selects, also
where it runs backwards.  Only there being empty means something else than having no length
(`isEmpty_iff`).  A merged span runs backwards if every span in it starts after every one stops
(`Covers.start_le_stop_iff`).
-/

namespace BasicTokens

open Text

namespace Span

variable {a b : Span} {l : List Span} {source text : Text}

/-! ## One span -/

/-- **The length is the number of offsets in the range.** -/
theorem encard_contains (a : Span) : {n | a.contains n = true}.encard = a.length := by
  have hoffsets : {n | a.contains n = true} = (Finset.Ico a.start a.stop : Set Nat) := by
    rw [Finset.coe_Ico]
    exact Set.ext (mem_contains_iff a)
  rw [hoffsets, Set.encard_coe_eq_coe_finsetCard, Nat.card_Ico, length]

/-- **A span is empty if it has no length and runs forwards.** -/
theorem isEmpty_iff (a : Span) : a.isEmpty = true ↔ a.length = 0 ∧ a.start ≤ a.stop := by
  rw [isEmpty, beq_iff_eq, length]
  omega

/-- **What a span selects has its length** in bytes. -/
theorem byteLength_of_select? (h : a.select? source = some text) : text.byteLength = a.length := by
  obtain ⟨u, v, -, -, hstop⟩ := slice?_eq_some_iff.mp h
  rw [length, ← hstop, Nat.add_sub_cancel_left]

/-! ## Many spans -/

/-- **A cover runs forwards** if one of the spans starts no later than one of them stops. -/
theorem Covers.start_le_stop_iff (h : Covers l b) :
    b.start ≤ b.stop ↔ ∃ x ∈ l, ∃ y ∈ l, x.start ≤ y.stop := by
  constructor
  · intro hle
    obtain ⟨x, hx, hstart, -⟩ := h.first
    obtain ⟨y, hy, hstop⟩ := h.last
    exact ⟨x, hx, y, hy, by rwa [hstart, hstop]⟩
  · rintro ⟨x, hx, y, hy, hle⟩
    calc
      b.start ≤ x.start := h.start_le x hx
      _ ≤ y.stop := hle
      _ ≤ b.stop := h.le_stop y hy

namespace Merging

/-- **The readings of a span agree**, however it was merged: its length is the number of offsets
that it contains, and the number of bytes of whatever it selects.  It is empty if and only if it has
no length and runs forwards, and it runs forwards if and only if one of the spans in it starts no
later than one of them stops. -/
theorem readings_agree (x : Merging) :
    {n | x.result.contains n = true}.encard = x.result.length ∧
    (x.result.isEmpty = true ↔ x.result.length = 0 ∧ x.result.start ≤ x.result.stop) ∧
    (x.result.start ≤ x.result.stop ↔ ∃ a ∈ x.spans, ∃ b ∈ x.spans, a.start ≤ b.stop) ∧
    ∀ source text, x.result.select? source = some text → text.byteLength = x.result.length :=
  ⟨encard_contains x.result, isEmpty_iff x.result, x.covers.start_le_stop_iff,
    fun _ _ => byteLength_of_select?⟩

/-- Two spans that both run backwards may be merged into one that does not. -/
theorem readings_agree_backwards :
    let x : Merging := .both (.one ⟨4, 2, 1, 5⟩) (.one ⟨9, 8, 1, 9⟩)
    x.result.select? "LET é = 1".toList = some "é =".toList ∧
      byteLength "é =".toList = x.result.length := by
  intro x
  have h : x.result.select? "LET é = 1".toList = some "é =".toList := by decide +kernel
  exact ⟨h, x.readings_agree.2.2.2 _ _ h⟩

/-- **A span that runs backwards has no length and is not empty.**  So it is not so that a span is
empty whenever it has no length. -/
theorem not_readings_agree_of_backwards :
    ¬ ∀ x : Merging, {n | x.result.contains n = true}.encard = x.result.length ∧
      (x.result.isEmpty = true ↔ x.result.length = 0) ∧
      ∀ source text, x.result.select? source = some text → text.byteLength = x.result.length := by
  intro h
  have hempty : isEmpty ⟨5, 2, 1, 1⟩ = true := (h (.one ⟨5, 2, 1, 1⟩)).2.1.mpr rfl
  exact absurd hempty (by decide)

end Merging

end Span

end BasicTokens
