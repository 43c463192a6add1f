import BasicTokens.Proofs.Runs
import BasicTokens.Text.Quoted

/-!
# Proofs/Quoting — a quoted text can be read back

    "é\"\u{7f}" at …      " é \" \u{7f} "    a piece for each character, and a quote at either end

A way of writing things is *self-delimiting* if what is written can be told from whatever follows it
(`Text.SelfDelimiting`).  Every piece of a quoted text is, the code of a character because a brace
ends its digits (`Text.selfDelimiting_escape`).  None begins with a quote, so the quote at the end
shows the end, and the quoted text is self-delimiting too (`Text.selfDelimiting_quoted`).
-/

namespace BasicTokens

namespace Text

/-! ## Self-delimiting forms -/

section SelfDelimiting

variable {α : Type} {f : α → Text} {mark : Char}

/-- **A way of writing whose end shows**: what is written and what follows it can be told apart. -/
def SelfDelimiting (f : α → Text) : Prop := ∀ a b s t, f a ++ s = f b ++ t → a = b ∧ s = t

/-- **A mark with which nothing begins ends a list** of self-delimiting pieces. -/
theorem SelfDelimiting.flatMap (hf : SelfDelimiting f)
    (hmark : ∀ a, ∃ c u, f a = c :: u ∧ c ≠ mark) :
    SelfDelimiting fun l : List α => l.flatMap f ++ [mark] := by
  intro l m s t h
  -- the mark against a piece that begins with another character
  have hends : ∀ a (u v : Text), mark :: u ≠ f a ++ v := fun a u v heq => by
    obtain ⟨c, w, hw, hne⟩ := hmark a
    rw [hw] at heq
    exact hne (List.cons.inj heq).1.symm
  simp only [List.append_assoc, List.singleton_append] at h
  induction l generalizing m with
  | nil =>
    obtain _ | ⟨b, m⟩ := m
    · exact ⟨rfl, (List.cons.inj h).2⟩
    · rw [List.flatMap_nil, List.flatMap_cons, List.append_assoc, List.nil_append] at h
      exact absurd h (hends b _ _)
  | cons a l ih =>
    obtain _ | ⟨b, m⟩ := m
    · rw [List.flatMap_nil, List.flatMap_cons, List.append_assoc, List.nil_append] at h
      exact absurd h.symm (hends a _ _)
    · rw [List.flatMap_cons, List.flatMap_cons, List.append_assoc, List.append_assoc] at h
      obtain ⟨rfl, hrest⟩ := hf a b _ _ h
      obtain ⟨rfl, rfl⟩ := ih m hrest
      exact ⟨rfl, rfl⟩

end SelfDelimiting

/-! ## Numerals -/

section Numerals

variable {b m n : Nat} {c : Char}

/-- The sixteen digits differ. -/
theorem digitChar_inj (hm : m < 16) (hn : n < 16) (h : m.digitChar = n.digitChar) : m = n :=
  (by decide : ∀ m < 16, ∀ n < 16, m.digitChar = n.digitChar → m = n) m hm n hn h

/-- **A numeral is a numeral of one number.** -/
theorem toDigits_injective (hb : 1 < b) (hb' : b ≤ 16) : Function.Injective (Nat.toDigits b) := by
  intro m
  induction m using Nat.strongRecOn with
  | ind m ih =>
    intro n h
    -- all digits but the last, and the last
    have hsplit : ∀ k, Nat.toDigits b k
        = (if k < b then [] else Nat.toDigits b (k / b)) ++ [(k % b).digitChar] := fun k => by
      rw [Nat.toDigits_eq_if hb]
      split
      · rw [Nat.mod_eq_of_lt ‹_›, List.nil_append]
      · rfl
    rw [hsplit m, hsplit n] at h
    obtain ⟨hfront, hlast⟩ := List.append_inj' h rfl
    have hdigit : ∀ k, k % b < 16 := fun k => Nat.lt_of_lt_of_le (Nat.mod_lt k (by omega)) hb'
    have hmod : m % b = n % b := digitChar_inj (hdigit m) (hdigit n) (List.singleton_inj.mp hlast)
    have hdiv : m / b = n / b := by
      by_cases hm : m < b <;> by_cases hn : n < b
      · rw [Nat.div_eq_of_lt hm, Nat.div_eq_of_lt hn]
      · rw [if_pos hm, if_neg hn] at hfront
        exact absurd hfront.symm Nat.toDigits_ne_nil
      · rw [if_neg hm, if_pos hn] at hfront
        exact absurd hfront Nat.toDigits_ne_nil
      · rw [if_neg hm, if_neg hn] at hfront
        exact ih (m / b) (Nat.div_lt_self (by omega) hb) hfront
    rw [← Nat.div_add_mod m b, ← Nat.div_add_mod n b, hdiv, hmod]

theorem decimal_injective : Function.Injective decimal :=
  toDigits_injective (by omega) (by omega)

theorem hexadecimal_injective : Function.Injective hexadecimal :=
  toDigits_injective (by omega) (by omega)

/-- Zeros in front of a numeral do not change its number. -/
theorem padStart_decimal_injective (width : Nat) :
    Function.Injective fun n => (decimal n).padStart width '0' := fun m n h => by
  have hread : ∀ n, Nat.ofDigitChars 10 ((decimal n).padStart width '0') 0 = n := fun n => by
    rw [padStart, Nat.ofDigitChars_append, Nat.ofDigitChars_replicate_zero, Nat.mul_zero, decimal,
      Nat.ofDigitChars_ten_toDigits]
  rw [← hread m, ← hread n]
  exact congrArg (Nat.ofDigitChars 10 · 0) h

/-- A numeral consists of digits. -/
theorem exists_digitChar (hb : 1 < b) (h : c ∈ Nat.toDigits b n) : ∃ d < b, c = d.digitChar := by
  have hsingle : ∀ m < b, c ∈ Nat.toDigits b m → ∃ d < b, c = d.digitChar := fun m hm h => by
    rw [Nat.toDigits_of_lt_base hm, List.mem_singleton] at h
    exact ⟨m, hm, h⟩
  induction n using Nat.base_induction b hb with
  | single m hm => exact hsingle m hm h
  | digit m k hk hm ih =>
    rw [← Nat.toDigits_append_toDigits hb hm hk] at h
    exact (List.mem_append.mp h).elim ih (hsingle k hk)

/-- A digit is an ASCII character between the space and the braces. -/
theorem digitChar_bounds (hn : n < 16) : 0x20 ≤ n.digitChar.toNat ∧ n.digitChar.toNat < 0x7b :=
  (by decide : ∀ n < 16, 0x20 ≤ n.digitChar.toNat ∧ n.digitChar.toNat < 0x7b) n hn

theorem isUnprintable_digitChar [CharacterData] (hn : n < 16) :
    isUnprintable n.digitChar = false :=
  isUnprintable_of_ascii (digitChar_bounds hn).1 (Nat.lt_trans (digitChar_bounds hn).2 (by decide))

/-- A character that is no digit is in no decimal numeral. -/
theorem not_mem_decimal (h : c.isDigit = false) (n : Nat) : c ∉ decimal n := fun hmem => by
  have hdigit := Nat.isDigit_of_mem_toDigits (by omega) (by omega) hmem
  exact absurd hdigit (by simp [h])

theorem brace_not_mem_hexadecimal (n : Nat) : '\x7d' ∉ hexadecimal n := fun h => by
  obtain ⟨d, hd, heq⟩ := exists_digitChar (by omega) h
  exact absurd (heq ▸ (digitChar_bounds hd).2) (by decide)

end Numerals

/-! ## Pieces of a quoted text -/

section Pieces

variable {c d l : Char} {s t u v : Text}

/-- The characters with a letter of their own, and their letters. -/
def escapeLetters : List (Char × Char) :=
  [('\x00', '0'), ('\t', 't'), ('\r', 'r'), ('\n', 'n'), ('"', '"'), ('\\', '\\')]

theorem mem_escapeLetters (h : escapeLetter? c = some l) : (c, l) ∈ escapeLetters := by
  fun_cases escapeLetter? c <;> simp_all [escapeLetter?, escapeLetters, eq_comm]

theorem escapeLetter?_inj (hc : escapeLetter? c = some l) (hd : escapeLetter? d = some l) : c = d :=
  (by decide : ∀ p ∈ escapeLetters, ∀ q ∈ escapeLetters, p.2 = q.2 → p.1 = q.1)
    (c, l) (mem_escapeLetters hc) (d, l) (mem_escapeLetters hd) rfl

variable [CharacterData]

/-- **The three ways in which a quoted text shows a character**: by its letter, by its code, or as
it is. -/
inductive Shows : Char → Text → Prop
  | letter {c l : Char} (h : escapeLetter? c = some l) : Shows c ['\\', l]
  | code (c : Char) : Shows c ('\\' :: 'u' :: '\x7b' :: (hexadecimal c.toNat ++ ['\x7d']))
  | plain {c : Char} (hc : escapeLetter? c = none) (h : isUnprintable c = false) : Shows c [c]

theorem shows_escape (c : Char) : Shows c (escape c) := by
  rw [escape]
  split
  · exact .letter ‹_›
  · split
    · exact .code c
    · exact .plain ‹_› (by simpa using ‹¬isUnprintable c = true›)

/-- The backslash tells the ways apart, and the letter after it tells a letter from a code. -/
theorem Shows.append_inj (hc : Shows c s) (hd : Shows d t) (h : s ++ u = t ++ v) :
    c = d ∧ u = v := by
  have hcode : ∀ {c}, escapeLetter? c ≠ some 'u' := fun hu =>
    (by decide : ∀ p ∈ escapeLetters, p.2 ≠ 'u') _ (mem_escapeLetters hu) rfl
  cases hc with
  | letter hl =>
    cases hd with
    | letter hl' =>
      obtain ⟨rfl, rfl⟩ := List.cons.inj (List.cons.inj h).2
      exact ⟨escapeLetter?_inj hl hl', rfl⟩
    | code =>
      obtain ⟨rfl, -⟩ := List.cons.inj (List.cons.inj h).2
      exact absurd hl hcode
    | plain hplain =>
      obtain ⟨rfl, -⟩ := List.cons.inj h
      exact absurd hplain (by decide)
  | code =>
    cases hd with
    | letter hl =>
      obtain ⟨rfl, -⟩ := List.cons.inj (List.cons.inj h).2
      exact absurd hl hcode
    | code =>
      obtain ⟨hsame, hrest⟩ := append_mark_inj (brace_not_mem_hexadecimal _)
        (brace_not_mem_hexadecimal _) (by simpa using h)
      exact ⟨Char.toNat_inj.mp (hexadecimal_injective hsame), hrest⟩
    | plain hplain =>
      obtain ⟨rfl, -⟩ := List.cons.inj h
      exact absurd hplain (by decide)
  | plain hplain =>
    cases hd with
    | letter =>
      obtain ⟨rfl, -⟩ := List.cons.inj h
      exact absurd hplain (by decide)
    | code =>
      obtain ⟨rfl, -⟩ := List.cons.inj h
      exact absurd hplain (by decide)
    | plain => exact List.cons.inj h

theorem selfDelimiting_escape : SelfDelimiting escape := fun c d _ _ =>
  (shows_escape c).append_inj (shows_escape d)

/-- No piece begins with a quote, or is empty. -/
theorem Shows.exists_cons (h : Shows c s) : ∃ d u, s = d :: u ∧ d ≠ '"' := by
  cases h with
  | letter => exact ⟨_, _, rfl, by decide⟩
  | code => exact ⟨_, _, rfl, by decide⟩
  | plain hplain =>
    refine ⟨_, _, rfl, ?_⟩
    rintro rfl
    exact absurd hplain (by decide)

/-- **A quoted text ends with its closing quote**, whatever follows. -/
theorem selfDelimiting_quoted : SelfDelimiting quoted := fun s t u v h =>
  selfDelimiting_escape.flatMap (fun c => (shows_escape c).exists_cons) s t u v (List.cons.inj h).2

/-! ## Nothing hidden -/

/-- A piece hides nothing. -/
theorem Shows.isUnprintable_eq_false (h : Shows c s) (hd : d ∈ s) : isUnprintable d = false := by
  have hascii : ∀ c : Char, 0x20 ≤ c.toNat ∧ c.toNat < 0x7f → isUnprintable c = false :=
    fun c hc => isUnprintable_of_ascii hc.1 hc.2
  cases h with
  | letter hl =>
    have hletter := (by decide : ∀ p ∈ escapeLetters, 0x20 ≤ p.2.toNat ∧ p.2.toNat < 0x7f) _
      (mem_escapeLetters hl)
    obtain rfl | rfl : d = '\\' ∨ d = _ := by simpa using hd
    · exact hascii _ (by decide)
    · exact hascii _ hletter
  | code =>
    obtain rfl | rfl | rfl | hdigit | rfl :
        d = '\\' ∨ d = 'u' ∨ d = '\x7b' ∨ d ∈ hexadecimal c.toNat ∨ d = '\x7d' := by simpa using hd
    · exact hascii _ (by decide)
    · exact hascii _ (by decide)
    · exact hascii _ (by decide)
    · obtain ⟨n, hn, rfl⟩ := exists_digitChar (by omega) hdigit
      exact isUnprintable_digitChar hn
    · exact hascii _ (by decide)
  | plain _ hprintable => rwa [List.mem_singleton.mp hd]

/-- **A quoted text hides nothing**, so it stays on its line. -/
theorem isUnprintable_of_mem_quoted (h : c ∈ quoted t) : isUnprintable c = false := by
  have hquote : isUnprintable '"' = false := isUnprintable_of_ascii (by decide) (by decide)
  obtain rfl | hbody | rfl : c = '"' ∨ c ∈ t.flatMap escape ∨ c = '"' := by simpa [quoted] using h
  · exact hquote
  · obtain ⟨d, -, hd⟩ := List.mem_flatMap.mp hbody
    exact (shows_escape d).isUnprintable_eq_false hd
  · exact hquote

end Pieces

end Text

end BasicTokens
