import Mathlib.Computability.Language
import BasicTokens.Proofs.Recognizers

/-!
# Proofs/NumberLanguage — numbers as a regular language

    [0-9]+ | [0-9]*\.[0-9]+        1   007   3.14   .5        not: 3.   .   1.2.3   ٣

The recognizer reads a text once and remembers whether it saw a digit and whether it saw the point
(`Grammar.digitsAndPoint`).  What it accepts is the language written above
(`Grammar.isNumber_iff_mem_numbers`): a word of it falls apart at its point, if it has one, into
runs of digits, and these are what the two flags and the look at the last character ask for.
-/

namespace BasicTokens

open scoped Computability

namespace Grammar

variable {t : Text} {c : Char}

/-- `[0-9]`. -/
def digit : Language Char := {t | ∃ c, '0' ≤ c ∧ c ≤ '9' ∧ t = [c]}

/-- `[0-9]+ | [0-9]*\.[0-9]+`. -/
def numbers : Language Char := digit * digit∗ + digit∗ * ({['.']} * (digit * digit∗))

/-- A digit is one of the ten ASCII digits. -/
theorem isDigit_iff : c.isDigit = true ↔ '0' ≤ c ∧ c ≤ '9' := by
  simp [Char.isDigit, Char.le_def]

theorem singleton_mem_digit : [c] ∈ digit ↔ c.isDigit = true := by
  rw [isDigit_iff]
  refine ⟨fun ⟨d, hlow, hhigh, hd⟩ => ?_, fun h => ⟨c, h.1, h.2, rfl⟩⟩
  obtain rfl := List.singleton_inj.mp hd
  exact ⟨hlow, hhigh⟩

/-- `[0-9]*` are the texts of digits. -/
theorem mem_digits_iff : t ∈ digit∗ ↔ ∀ c ∈ t, c.isDigit = true := by
  rw [Language.mem_kstar]
  constructor
  · rintro ⟨words, rfl, hwords⟩ c hc
    obtain ⟨word, hword, hc⟩ := List.mem_flatten.mp hc
    obtain ⟨d, hlow, hhigh, rfl⟩ := hwords word hword
    rw [List.mem_singleton.mp hc]
    exact isDigit_iff.mpr ⟨hlow, hhigh⟩
  · intro h
    refine ⟨t.map fun c => [c], ?_, fun word hword => ?_⟩
    · rw [← List.flatMap_def, List.flatMap_singleton']
    obtain ⟨c, hc, rfl⟩ := List.mem_map.mp hword
    exact singleton_mem_digit.mpr (h c hc)

/-- `[0-9]+` are those that are not empty. -/
theorem mem_digit_digits_iff :
    t ∈ digit * digit∗ ↔ t ≠ [] ∧ ∀ c ∈ t, c.isDigit = true := by
  rw [Language.mem_mul]
  constructor
  · rintro ⟨_, ⟨c, hlow, hhigh, rfl⟩, u, hu, rfl⟩
    exact ⟨by simp, List.forall_mem_cons.mpr ⟨isDigit_iff.mpr ⟨hlow, hhigh⟩, mem_digits_iff.mp hu⟩⟩
  · rintro ⟨hne, h⟩
    obtain ⟨c, u, rfl⟩ := List.exists_cons_of_ne_nil hne
    obtain ⟨hc, hu⟩ := List.forall_mem_cons.mp h
    exact ⟨[c], singleton_mem_digit.mpr hc, u, mem_digits_iff.mpr hu, rfl⟩

/-- **A word of the language** is a run of digits, or two runs around a point of which the second is
not empty. -/
theorem mem_numbers_iff :
    t ∈ numbers ↔ (t ≠ [] ∧ ∀ c ∈ t, c.isDigit = true) ∨
      ∃ s u, t = s ++ '.' :: u ∧ (∀ c ∈ s, c.isDigit = true) ∧ u ≠ [] ∧
        ∀ c ∈ u, c.isDigit = true := by
  rw [numbers, Language.mem_add, mem_digit_digits_iff]
  refine or_congr_right ?_
  rw [Language.mem_mul]
  constructor
  · rintro ⟨s, hs, _, ⟨_, rfl, u, hu, rfl⟩, rfl⟩
    exact ⟨s, u, rfl, mem_digits_iff.mp hs, mem_digit_digits_iff.mp hu⟩
  · rintro ⟨s, u, rfl, hs, hu⟩
    exact ⟨s, mem_digits_iff.mpr hs, _, ⟨_, rfl, u, mem_digit_digits_iff.mpr hu, rfl⟩, rfl⟩

/-- **Numbers are exactly the words of `[0-9]+ | [0-9]*\.[0-9]+`**: the texts of digits that are not
empty, and the texts of digits with one point before the last of them. -/
theorem isNumber_iff_mem_numbers (t : Text) :
    (isNumber t = true ↔ t ∈ numbers) ∧
    (isNumber t = true ↔ (t ≠ [] ∧ ∀ c ∈ t, c.isDigit = true) ∨
      ∃ s u, t = s ++ '.' :: u ∧ (∀ c ∈ s, c.isDigit = true) ∧ u ≠ [] ∧
        ∀ c ∈ u, c.isDigit = true) := by
  have hforms : isNumber t = true ↔ t ∈ numbers := by
    rw [mem_numbers_iff]
    refine ⟨digits_or_decimal_of_isNumber, ?_⟩
    rintro (⟨hne, ht⟩ | ⟨s, u, rfl, hs, hne, hu⟩)
    · exact isNumber_digits ht hne
    · exact isNumber_decimal hs hu hne
  exact ⟨hforms, hforms.trans mem_numbers_iff⟩

/-- A point needs a digit after it, and none before it; two points are too many, and digits of other
scripts are none. -/
example : [".5", "3.", ".", "1.2.3", "٣"].map (fun s => isNumber s.toList)
    = [true, false, false, false, false] := by
  decide +kernel

end Grammar

end BasicTokens
