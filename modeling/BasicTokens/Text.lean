/-!
# Text — characters in order, measured and cut in bytes

Source text, lexemes, messages and written documents are lists of characters.  Their places are
counted in characters *and* in the bytes of their UTF-8 form, so a cut at a byte offset exists only
where a character begins (`dropBytes?`, `slice?`), and `slice?_append` says that a cut at the end of
what comes before and of what is wanted gives exactly the part wanted.
-/

namespace BasicTokens

/-- Characters in order. -/
abbrev Text := List Char

namespace Text

/-! ## Bytes -/

/-- The number of bytes of a text's UTF-8 form. -/
def byteLength : Text → Nat
  | [] => 0
  | c :: t => c.utf8Size + byteLength t

/-- How many of a text's characters begin within its first `n` bytes. -/
def countWithin : Nat → Text → Nat
  | 0, _ => 0
  | _ + 1, [] => 0
  | n + 1, c :: t => countWithin (n + 1 - c.utf8Size) t + 1

/-- The text after its first `n` bytes, if `n` bytes are a whole number of its characters. -/
def dropBytes? : Nat → Text → Option Text
  | 0, t => some t
  | _ + 1, [] => none
  | n + 1, c :: t => if c.utf8Size ≤ n + 1 then dropBytes? (n + 1 - c.utf8Size) t else none

/-- The first `n` bytes of a text, if they are a whole number of its characters. -/
def takeBytes? : Nat → Text → Option Text
  | 0, _ => some []
  | _ + 1, [] => none
  | n + 1, c :: t =>
    if c.utf8Size ≤ n + 1 then (takeBytes? (n + 1 - c.utf8Size) t).map (c :: ·) else none

/-- The characters from byte `start` up to byte `stop`, if both are boundaries between characters
and in this order. -/
def slice? (start stop : Nat) (t : Text) : Option Text :=
  if start ≤ stop then (t.dropBytes? start).bind (takeBytes? (stop - start)) else none

@[simp] theorem byteLength_nil : byteLength [] = 0 := rfl

@[simp] theorem byteLength_cons (c : Char) (t : Text) :
    byteLength (c :: t) = c.utf8Size + byteLength t := rfl

theorem byteLength_append (s t : Text) : byteLength (s ++ t) = byteLength s + byteLength t := by
  induction s with
  | nil => simp
  | cons c s ih => simp [ih, Nat.add_assoc]

theorem length_le_byteLength (t : Text) : t.length ≤ t.byteLength := by
  induction t with
  | nil => simp
  | cons c t ih =>
    have := c.utf8Size_pos
    simp only [List.length_cons, byteLength_cons]
    omega

/-- Where every character is one byte, there are as many bytes as characters. -/
theorem byteLength_eq_length {t : Text} (h : ∀ c ∈ t, c.utf8Size = 1) : t.byteLength = t.length := by
  induction t with
  | nil => rfl
  | cons c t ih =>
    obtain ⟨hc, ht⟩ := List.forall_mem_cons.mp h
    rw [byteLength_cons, ih ht, hc, List.length_cons, Nat.add_comm]

theorem byteLength_pos {t : Text} (h : t ≠ []) : 0 < t.byteLength :=
  Nat.lt_of_lt_of_le (List.length_pos_iff.mpr h) (length_le_byteLength t)

theorem countWithin_le_length (n : Nat) (t : Text) : countWithin n t ≤ t.length := by
  fun_induction countWithin n t with
  | case1 => simp
  | case2 => simp
  | case3 n c t ih => simpa using ih

/-- A positive number of bytes reaches into the first character. -/
theorem countWithin_pos {n : Nat} (hn : 0 < n) {t : Text} (ht : t ≠ []) : 0 < countWithin n t := by
  obtain ⟨c, t, rfl⟩ := List.exists_cons_of_ne_nil ht
  obtain ⟨n, rfl⟩ := Nat.exists_eq_succ_of_ne_zero (Nat.ne_of_gt hn)
  simp [countWithin]

@[simp] theorem countWithin_zero (t : Text) : countWithin 0 t = 0 := by cases t <;> rfl

@[simp] theorem countWithin_nil (n : Nat) : countWithin n [] = 0 := by cases n <;> rfl

/-- Counting goes on from the end of an initial part. -/
theorem countWithin_append (s t : Text) (n : Nat) :
    countWithin (s.byteLength + n) (s ++ t) = s.length + countWithin n t := by
  induction s with
  | nil => simp
  | cons c s ih =>
    have hpos := c.utf8Size_pos
    obtain ⟨m, hm⟩ : ∃ m, byteLength (c :: s) + n = m + 1 :=
      Nat.exists_eq_succ_of_ne_zero (by rw [byteLength_cons]; omega)
    rw [hm, List.cons_append, countWithin, List.length_cons, Nat.add_right_comm, ← ih]
    rw [byteLength_cons] at hm
    rw [show m + 1 - c.utf8Size = byteLength s + n by omega]

/-- The bytes of an initial part hold exactly its characters. -/
theorem countWithin_byteLength_append (s t : Text) :
    countWithin s.byteLength (s ++ t) = s.length := by
  rw [← Nat.add_zero s.byteLength, countWithin_append, countWithin_zero, Nat.add_zero]

theorem dropBytes?_byteLength_append (s t : Text) :
    dropBytes? s.byteLength (s ++ t) = some t := by
  induction s with
  | nil => simp [dropBytes?]
  | cons c s ih =>
    obtain ⟨n, hn⟩ := Nat.exists_eq_succ_of_ne_zero (Nat.ne_of_gt c.utf8Size_pos)
    rw [byteLength_cons, hn, Nat.succ_add, List.cons_append, dropBytes?]
    rw [if_pos (by omega), show n + byteLength s + 1 - c.utf8Size = byteLength s by omega, ih]

theorem takeBytes?_byteLength_append (s t : Text) :
    takeBytes? s.byteLength (s ++ t) = some s := by
  induction s with
  | nil => simp [takeBytes?]
  | cons c s ih =>
    obtain ⟨n, hn⟩ := Nat.exists_eq_succ_of_ne_zero (Nat.ne_of_gt c.utf8Size_pos)
    rw [byteLength_cons, hn, Nat.succ_add, List.cons_append, takeBytes?]
    rw [if_pos (by omega), show n + byteLength s + 1 - c.utf8Size = byteLength s by omega, ih]
    rfl

/-- **A part is what lies between its two ends** — wherever it stands in a text. -/
theorem slice?_append (s t u : Text) :
    slice? s.byteLength (s.byteLength + t.byteLength) (s ++ (t ++ u)) = some t := by
  rw [slice?, if_pos (Nat.le_add_right _ _), dropBytes?_byteLength_append, Option.bind_some,
    Nat.add_sub_cancel_left, takeBytes?_byteLength_append]

/-! ## Trimming and lines -/

/-- A text without its longest end of characters satisfying `p`. -/
def trimEnd (p : Char → Bool) (t : Text) : Text := (t.reverse.dropWhile p).reverse

/-- A text without the characters satisfying `p` at both ends. -/
def trim (p : Char → Bool) (t : Text) : Text := trimEnd p (t.dropWhile p)

/-- The `n`-th line, counted from zero and without its line feed. -/
def lineAt : Nat → Text → Text
  | 0, t => t.takeWhile (· != '\n')
  | n + 1, t => lineAt n ((t.dropWhile (· != '\n')).drop 1)

/-! ## Case and decimal numerals -/

/-- Every ASCII letter in upper case, all else unchanged. -/
def toUpper (t : Text) : Text := t.map Char.toUpper

/-- Equality up to the case of ASCII letters. -/
def equalsIgnoringCase (s t : Text) : Bool := s.toUpper == t.toUpper

/-- A natural number in decimal digits. -/
def decimal (n : Nat) : Text := Nat.toDigits 10 n

/-- A text padded on the left to at least `width` characters. -/
def padStart (width : Nat) (c : Char) (t : Text) : Text := List.replicate (width - t.length) c ++ t

end Text

end BasicTokens
