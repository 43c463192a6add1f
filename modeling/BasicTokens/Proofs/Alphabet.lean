import Mathlib
import BasicTokens.Proofs.Runs

/-!
# Proofs/Alphabet — which classes a character can belong to

The rules of the grammar tell lexemes apart by their first character, so they do not overlap because
the classes do not: a blank is no name character, a digit starts no name, a symbol is neither.
-/

namespace BasicTokens

namespace Character

variable {c : Char}

/-- What holds of the six blanks holds of every blank. -/
theorem forall_blank {q : Char → Prop}
    (h : q ' ' ∧ q '\t' ∧ q '\n' ∧ q '\r' ∧ q '\x0b' ∧ q '\x0c') (hc : isBlank c = true) : q c := by
  obtain ⟨hspace, htab, hfeed, hreturn, hvertical, hform⟩ := h
  simp only [isBlank, Bool.or_eq_true, beq_iff_eq] at hc
  rcases hc with ((((rfl | rfl) | rfl) | rfl) | rfl) | rfl <;> assumption

theorem isNamePart_of_isBlank (h : isBlank c = true) : isNamePart c = false :=
  forall_blank (q := fun d => isNamePart d = false) (by decide) h

theorem isDigit_of_isBlank (h : isBlank c = true) : c.isDigit = false :=
  forall_blank (q := fun d => d.isDigit = false) (by decide) h

theorem ne_quote_of_isBlank (h : isBlank c = true) : c ≠ '"' :=
  forall_blank (q := fun d => d ≠ '"') (by decide) h

theorem isBlank_of_isNamePart (h : isNamePart c = true) : isBlank c = false := by
  rw [Bool.eq_false_iff]
  intro hb
  exact absurd h (by simp [isNamePart_of_isBlank hb])

theorem isNamePart_of_isDigit (h : c.isDigit = true) : isNamePart c = true := by
  simp [isNamePart, Char.isAlphanum, h]

theorem isBlank_of_isDigit (h : c.isDigit = true) : isBlank c = false :=
  isBlank_of_isNamePart (isNamePart_of_isDigit h)

theorem isLineEnd_of_isBlank (h : isBlank c = false) : isLineEnd c = false := by
  rw [Bool.eq_false_iff]
  intro hl
  exact absurd (isBlank_of_isLineEnd hl) (by simp [h])

theorem isLineEnd_of_isNamePart (h : isNamePart c = true) : isLineEnd c = false :=
  isLineEnd_of_isBlank (isBlank_of_isNamePart h)

/-- A digit goes on with a name but starts none. -/
theorem isNameStart_of_isDigit (h : c.isDigit = true) : isNameStart c = false := by
  have hle : c.toNat ≤ 57 := by
    simp only [Char.isDigit, Bool.and_eq_true, decide_eq_true_eq] at h
    exact UInt32.le_iff_toNat_le.mp h.2
  rw [Bool.eq_false_iff]
  intro hstart
  have hge : 65 ≤ c.toNat := by
    simp only [isNameStart, Char.isAlpha, Char.isUpper, Char.isLower, Bool.or_eq_true,
      Bool.and_eq_true, decide_eq_true_eq, beq_iff_eq] at hstart
    rcases hstart with (hupper | hlower) | rfl
    · exact UInt32.le_iff_toNat_le.mp hupper.1
    · exact (by decide : 65 ≤ 97).trans (UInt32.le_iff_toNat_le.mp hlower.1)
    · decide
  omega

theorem isDigit_of_isNameStart (h : isNameStart c = true) : c.isDigit = false := by
  rw [Bool.eq_false_iff]
  intro hd
  exact absurd h (by simp [isNameStart_of_isDigit hd])

theorem ne_quote_of_isNamePart (h : isNamePart c = true) : c ≠ '"' := by
  rintro rfl
  exact absurd h (by decide)

/-- The characters of names are written with one byte. -/
theorem utf8Size_of_isNamePart (h : isNamePart c = true) : c.utf8Size = 1 := by
  refine Char.utf8Size_eq_one_iff.mpr (UInt32.le_iff_toNat_le.mpr ?_)
  have hle : c.val.toNat ≤ 122 := by
    simp only [isNamePart, Char.isAlphanum, Char.isAlpha, Char.isUpper, Char.isLower, Char.isDigit,
      Bool.or_eq_true, Bool.and_eq_true, decide_eq_true_eq, beq_iff_eq] at h
    rcases h with (((hupper | hlower) | hdigit) | rfl)
    · exact (UInt32.le_iff_toNat_le.mp hupper.2).trans (by decide)
    · exact UInt32.le_iff_toNat_le.mp hlower.2
    · exact (UInt32.le_iff_toNat_le.mp hdigit.2).trans (by decide)
    · decide
  exact hle.trans (by decide)

/-- A character with an upper-case letter as its upper case is a letter. -/
theorem isNameStart_of_toUpper (h : c.toUpper.isUpper = true) : isNameStart c = true := by
  simp only [isNameStart, ← Char.isUpper_toUpper_eq_isAlpha, h, Bool.true_or]

end Character

end BasicTokens
