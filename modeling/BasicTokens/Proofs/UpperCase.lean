import BasicTokens.Proofs.Cut

/-!
# Proofs/UpperCase — what a text in upper case keeps

The classes of characters and the marks of the grammar take all letters alike, or none of them, so a
letter may change its case (`Character.apply_toUpper`).  Runs, lines and lengths are made of such
classes; the recognizers read nothing else, but for the words, which are compared in upper case.
-/

namespace BasicTokens

/-! ## Characters -/

namespace Character

variable {c : Char}

theorem toUpper_eq_of_isNameStart (h : isNameStart c = false) : c.toUpper = c := by
  refine Char.toUpper_eq_of_not_isLower fun hlower => ?_
  simp [isNameStart, Char.isAlpha, hlower] at h

/-- **What is the same of all letters is the same in upper case.** -/
theorem apply_toUpper {α : Type*} {f : Char → α} (a : α)
    (h : ∀ c : Char, c.isAlpha = true → f c = a) (c : Char) : f c.toUpper = f c := by
  rcases hc : c.isAlpha
  · rw [Char.toUpper_eq_of_not_isLower fun hlower => by simp [Char.isAlpha, hlower] at hc]
  · rw [h c hc, h c.toUpper (by simpa using hc)]

theorem isNameStart_of_isAlpha (h : c.isAlpha = true) : isNameStart c = true := by
  simp [isNameStart, h]

theorem isNamePart_of_isAlpha (h : c.isAlpha = true) : isNamePart c = true :=
  isNamePart_of_isNameStart (isNameStart_of_isAlpha h)

@[simp] theorem isNameStart_toUpper (c : Char) : isNameStart c.toUpper = isNameStart c :=
  apply_toUpper true (fun _ => isNameStart_of_isAlpha) c

@[simp] theorem isNamePart_toUpper (c : Char) : isNamePart c.toUpper = isNamePart c :=
  apply_toUpper true (fun _ => isNamePart_of_isAlpha) c

@[simp] theorem isBlank_toUpper (c : Char) : isBlank c.toUpper = isBlank c :=
  apply_toUpper false (fun _ hd => isBlank_of_isNamePart (isNamePart_of_isAlpha hd)) c

@[simp] theorem isLineEnd_toUpper (c : Char) : isLineEnd c.toUpper = isLineEnd c :=
  apply_toUpper false (fun _ hd => isLineEnd_of_isNamePart (isNamePart_of_isAlpha hd)) c

@[simp] theorem isDigit_toUpper (c : Char) : c.toUpper.isDigit = c.isDigit :=
  apply_toUpper (f := Char.isDigit) false
    (fun _ hd => isDigit_of_isNameStart (isNameStart_of_isAlpha hd)) c

@[simp] theorem utf8Size_toUpper (c : Char) : c.toUpper.utf8Size = c.utf8Size :=
  apply_toUpper (f := Char.utf8Size) 1
    (fun _ hd => utf8Size_of_isNamePart (isNamePart_of_isAlpha hd)) c

/-- A character is put in upper case to a mark only if it is that mark. -/
theorem beq_toUpper {mark : Char} (h : mark.isAlpha = false) (c : Char) :
    (c.toUpper == mark) = (c == mark) := by
  refine apply_toUpper (f := (· == mark)) false (fun d hd => ?_) c
  rw [beq_eq_false_iff_ne]
  rintro rfl
  exact absurd hd (by simp [h])

theorem toUpper_eq_iff {mark : Char} (h : mark.isAlpha = false) : c.toUpper = mark ↔ c = mark := by
  simpa using Bool.eq_iff_iff.mp (beq_toUpper h c)

end Character

/-! ## Texts -/

namespace Text

open Character

variable {p : Char → Bool} {q : Char → Prop} {s t : Text} {c : Char}

@[simp] theorem toUpper_nil : Text.toUpper [] = [] := rfl

@[simp] theorem toUpper_cons : Text.toUpper (c :: t) = c.toUpper :: t.toUpper := rfl

@[simp] theorem toUpper_append : Text.toUpper (s ++ t) = s.toUpper ++ t.toUpper :=
  List.map_append

@[simp] theorem toUpper_toUpper : t.toUpper.toUpper = t.toUpper := by
  simp [Text.toUpper]

@[simp] theorem length_toUpper : t.toUpper.length = t.length := List.length_map _

@[simp] theorem byteLength_toUpper : t.toUpper.byteLength = t.byteLength := by
  induction t with
  | nil => rfl
  | cons c t ih => simp [ih]

theorem toUpper_ne_nil (h : t ≠ []) : t.toUpper ≠ [] := by simpa [Text.toUpper] using h

theorem forall_mem_toUpper (hq : ∀ c, q c → q c.toUpper) (h : ∀ c ∈ t, q c) :
    ∀ c ∈ t.toUpper, q c :=
  List.forall_mem_map.mpr fun c hc => hq c (h c hc)

theorem takeWhile_toUpper (hp : ∀ c : Char, p c.toUpper = p c) (t : Text) :
    t.toUpper.takeWhile p = Text.toUpper (t.takeWhile p) :=
  List.takeWhile_map.trans (by rw [show p ∘ Char.toUpper = p from funext hp]; rfl)

theorem dropWhile_toUpper (hp : ∀ c : Char, p c.toUpper = p c) (t : Text) :
    t.toUpper.dropWhile p = Text.toUpper (t.dropWhile p) :=
  List.dropWhile_map.trans (by rw [show p ∘ Char.toUpper = p from funext hp]; rfl)

theorem beginsWith_toUpper (hp : ∀ c : Char, p c.toUpper = p c) (t : Text) :
    beginsWith p t.toUpper = beginsWith p t := by
  cases t with
  | nil => rfl
  | cons c t => exact hp c

theorem endsWith_toUpper (hp : ∀ c : Char, p c.toUpper = p c) (t : Text) :
    endsWith p t.toUpper = endsWith p t := by
  obtain rfl | ⟨t, c, rfl⟩ := t.eq_nil_or_concat'
  · rfl
  · rw [toUpper_append, toUpper_cons, toUpper_nil, endsWith_concat, endsWith_concat, hp]

theorem trim_toUpper (hp : ∀ c : Char, p c.toUpper = p c) (t : Text) :
    trim p t.toUpper = Text.toUpper (trim p t) := by
  have hreverse : ∀ u : Text, u.toUpper.reverse = Text.toUpper u.reverse := fun u =>
    List.map_reverse.symm
  rw [trim, trim, trimEnd, trimEnd, dropWhile_toUpper hp, hreverse, dropWhile_toUpper hp, hreverse]

@[simp] theorem line_toUpper : t.toUpper.line = t.line.toUpper :=
  takeWhile_toUpper (fun c => by rw [isLineEnd_toUpper]) t

end Text

/-! ## Recognizers -/

namespace Grammar

open Character Text

variable {t : Text}

/-- The marker in any case is found in upper case. -/
theorem startsRemark_toUpper : startsRemark true t.toUpper = startsRemark true t := by
  have htake : List.take remark.length t.toUpper = Text.toUpper (t.take remark.length) :=
    List.map_take.symm
  simp only [startsRemark, if_true, htake, equalsIgnoringCase, toUpper_toUpper]

theorem isIdentifier_toUpper : isIdentifier t.toUpper = isIdentifier t := by
  cases t with
  | nil => rfl
  | cons c t => simp [isIdentifier, Text.toUpper, List.all_map, Function.comp_def]

theorem keyword?_toUpper : keyword? t.toUpper = keyword? t := by
  simp only [keyword?, equalsIgnoringCase, toUpper_toUpper]

theorem digitsAndPoint_toUpper (digitSeen pointSeen : Bool) :
    digitsAndPoint digitSeen pointSeen t.toUpper = digitsAndPoint digitSeen pointSeen t := by
  induction t generalizing digitSeen pointSeen with
  | nil => rfl
  | cons c t ih =>
    have hpoint : c.toUpper = '.' ↔ c = '.' := toUpper_eq_iff rfl
    simp only [toUpper_cons, digitsAndPoint, isDigit_toUpper, hpoint, ih]

/-! The marks are no letters, so a text has them where it has them in upper case. -/

theorem getLast?_toUpper_beq {mark : Char} (h : mark.isAlpha = false) (t : Text) :
    (t.toUpper.getLast? == some mark) = (t.getLast? == some mark) := by
  obtain rfl | ⟨t, c, rfl⟩ := t.eq_nil_or_concat'
  · rfl
  · simpa using beq_toUpper h c

theorem contains_toUpper {mark : Char} (h : mark.isAlpha = false) (t : Text) :
    t.toUpper.contains mark = t.contains mark := by
  induction t with
  | nil => rfl
  | cons c t ih =>
    have hone : (mark == c.toUpper) = (mark == c) := by
      rw [Bool.beq_comm, beq_toUpper h, Bool.beq_comm]
    rw [toUpper_cons, List.contains_cons, List.contains_cons, ih, hone]

theorem toUpper_eq_iff_of_marks {m : Text} (h : m.all (!·.isAlpha) = true) :
    t.toUpper = m ↔ t = m := by
  induction t generalizing m with
  | nil => rfl
  | cons c t ih =>
    cases m with
    | nil => simp
    | cons d m =>
      obtain ⟨hd, hm⟩ : d.isAlpha = false ∧ m.all (!·.isAlpha) = true := by simpa using h
      rw [toUpper_cons, List.cons.injEq, List.cons.injEq, toUpper_eq_iff hd, ih hm]

theorem contains_toUpper_of_marks {table : List Text}
    (h : ∀ m ∈ table, m.all (!·.isAlpha) = true) (t : Text) :
    table.contains t.toUpper = table.contains t := by
  rw [Bool.eq_iff_iff, List.contains_iff_mem, List.contains_iff_mem]
  refine ⟨fun hmem => ?_, fun hmem => ?_⟩
  · rwa [(toUpper_eq_iff_of_marks (h _ hmem)).mp rfl]
  · rwa [(toUpper_eq_iff_of_marks (h _ hmem)).mpr rfl]

theorem isOperator_toUpper : isOperator t.toUpper = isOperator t :=
  contains_toUpper_of_marks (by decide) t

theorem isDelimiter_toUpper : isDelimiter t.toUpper = isDelimiter t :=
  contains_toUpper_of_marks (by decide) t

theorem isNumber_toUpper : isNumber t.toUpper = isNumber t := by
  rw [isNumber, isNumber, digitsAndPoint_toUpper, bne, bne, getLast?_toUpper_beq rfl]

/-- A recognizer of what follows a quote may read what follows in upper case. -/
theorem quoted_toUpper {f : Text → Bool} (hquote : ∀ t, f ('"' :: Text.toUpper t) = f ('"' :: t))
    (helse : ∀ t, beginsWith (· == '"') t = false → f t = false) (t : Text) :
    f t.toUpper = f t := by
  rcases hbegins : beginsWith (· == '"') t
  · rw [helse t hbegins, helse _ ((beginsWith_toUpper (beq_toUpper rfl) t).trans hbegins)]
  · obtain ⟨c, u, rfl, hc⟩ := exists_cons_of_beginsWith hbegins
    obtain rfl : c = '"' := by simpa using hc
    exact hquote u

theorem isStringLiteral_toUpper : isStringLiteral t.toUpper = isStringLiteral t := by
  refine quoted_toUpper (fun u => ?_) (fun _ => isStringLiteral_eq_false) t
  have hlast : List.dropLast (Text.toUpper u) = Text.toUpper u.dropLast := List.map_dropLast.symm
  rw [isStringLiteral, isStringLiteral, getLast?_toUpper_beq rfl, hlast, contains_toUpper rfl]

theorem isOpenString_toUpper : isOpenString t.toUpper = isOpenString t := by
  refine quoted_toUpper (fun u => ?_) (fun _ => isOpenString_eq_false) t
  have hmark : ∀ c : Char, (c.toUpper != '"') = (c != '"') := fun c => by
    rw [bne, bne, beq_toUpper rfl]
  simp [isOpenString, Text.toUpper, List.all_map, Function.comp_def, hmark]

end Grammar

end BasicTokens
