import Mathlib.Data.List.DropRight
import BasicTokens.Character

/-!
# Proofs/Runs — how a text begins, how it ends, and where its line ends

A matcher takes a run of characters, trims it, or stops at a line end.  A run is known by what it
consists of and by how the text after it begins (`takeWhile_append_stop`), a trimmed text by how it
ends (`trimEnd_append`), and a line by what stands before its end (`line_append_of_lineEnd`).
-/

namespace BasicTokens

namespace Text

open Character

/-! ## First and last characters -/

/-- Whether the first character of a text satisfies `p`; the empty text has none. -/
def beginsWith (p : Char → Bool) (t : Text) : Bool := t.head?.any p

/-- Whether the last character of a text satisfies `p`; the empty text has none. -/
def endsWith (p : Char → Bool) (t : Text) : Bool := t.getLast?.any p

variable {p : Char → Bool} {s t : Text} {c : Char}

@[simp] theorem beginsWith_nil : beginsWith p [] = false := rfl

@[simp] theorem beginsWith_cons : beginsWith p (c :: t) = p c := rfl

@[simp] theorem endsWith_nil : endsWith p [] = false := rfl

@[simp] theorem endsWith_concat : endsWith p (t ++ [c]) = p c := by simp [endsWith]

theorem beginsWith_append (hs : s ≠ []) : beginsWith p (s ++ t) = beginsWith p s := by
  obtain ⟨c, s, rfl⟩ := List.exists_cons_of_ne_nil hs
  rfl

theorem endsWith_append (ht : t ≠ []) : endsWith p (s ++ t) = endsWith p t := by
  rw [endsWith, List.getLast?_append_of_ne_nil s ht, endsWith]

/-- What begins with something has a first character. -/
theorem exists_cons_of_beginsWith (h : beginsWith p t = true) :
    ∃ c u, t = c :: u ∧ p c = true := by
  rcases t with _ | ⟨c, t⟩
  · simp at h
  · exact ⟨c, t, rfl, h⟩

theorem beginsWith_of_forall (hne : t ≠ []) (h : ∀ c ∈ t, p c = true) : beginsWith p t = true := by
  obtain ⟨c, t, rfl⟩ := List.exists_cons_of_ne_nil hne
  exact h c List.mem_cons_self

/-- A text that does not begin with `q` does not begin with less either. -/
theorem beginsWith_eq_false_of_imp {q : Char → Bool} (h : beginsWith q t = false)
    (hpq : ∀ c, p c = true → q c = true) : beginsWith p t = false := by
  rcases t with _ | ⟨c, t⟩
  · rfl
  · rw [Bool.eq_false_iff]
    intro hc
    exact absurd (hpq c hc) (by simpa using h)

theorem beginsWith_eq_false_of_excludes {q : Char → Bool} (h : beginsWith q t = true)
    (hqp : ∀ c, q c = true → p c = false) : beginsWith p t = false := by
  rcases t with _ | ⟨c, t⟩
  · rfl
  · exact hqp c h

/-- A text of characters that fail `p` does not end in `p`. -/
theorem endsWith_eq_false_of_forall (h : ∀ c ∈ t, p c = false) : endsWith p t = false := by
  rcases t.eq_nil_or_concat' with rfl | ⟨s, c, rfl⟩
  · rfl
  · exact endsWith_concat.trans (h c (by simp))

/-! ## Runs -/

/-- A run of `p` at the front is the whole of a text before a character that fails `p`. -/
theorem takeWhile_append_stop (hs : ∀ c ∈ s, p c = true) (ht : beginsWith p t = false) :
    (s ++ t).takeWhile p = s := by
  rw [List.takeWhile_append_of_pos hs]
  rcases t with _ | ⟨c, t⟩
  · simp
  · rw [List.takeWhile_cons_of_neg (by simpa using ht), List.append_nil]

/-- Dropping the run leaves the text after it. -/
theorem dropWhile_append_stop (hs : ∀ c ∈ s, p c = true) (ht : beginsWith p t = false) :
    (s ++ t).dropWhile p = t := by
  rw [List.dropWhile_append_of_pos hs]
  rcases t with _ | ⟨c, t⟩
  · rfl
  · exact List.dropWhile_cons_of_neg (by simpa using ht)

/-- **A text is its longest run of `p` and what follows it.** -/
theorem exists_run (p : Char → Bool) (t : Text) :
    ∃ s u, t = s ++ u ∧ (∀ c ∈ s, p c = true) ∧ beginsWith p u = false := by
  refine ⟨t.takeWhile p, t.dropWhile p, (List.takeWhile_append_dropWhile).symm,
    fun c hc => List.mem_takeWhile_imp hc, ?_⟩
  have h := List.head?_dropWhile_not p t
  rcases hd : (t.dropWhile p).head? with _ | c
  · simp [beginsWith, hd]
  · simpa [beginsWith, hd] using h

/-- **The first mark cuts a text in one way.** -/
theorem append_mark_inj {mark : Char} {u v : Text} (hs : mark ∉ s) (ht : mark ∉ t)
    (h : s ++ mark :: u = t ++ mark :: v) : s = t ∧ u = v := by
  have hrun : ∀ {x w : Text}, mark ∉ x → (x ++ mark :: w).takeWhile (· != mark) = x := fun hx =>
    takeWhile_append_stop (fun c hc => by
      have hne : c ≠ mark := fun h => hx (h ▸ hc)
      simpa using hne) (by simp)
  obtain rfl : s = t := by rw [← hrun hs (w := u), h, hrun ht]
  exact ⟨rfl, (List.cons.inj (List.append_cancel_left h)).2⟩

/-- **…and so does the last one.** -/
theorem append_last_mark_inj {mark : Char} {u v : Text} (hu : mark ∉ u) (hv : mark ∉ v)
    (h : s ++ mark :: u = t ++ mark :: v) : s = t ∧ u = v := by
  -- backwards it is the first
  have hreverse : u.reverse ++ mark :: s.reverse = v.reverse ++ mark :: t.reverse := by
    simpa using congrArg List.reverse h
  obtain ⟨huv, hst⟩ := append_mark_inj (mt List.mem_reverse.mp hu) (mt List.mem_reverse.mp hv)
    hreverse
  exact ⟨List.reverse_injective hst, List.reverse_injective huv⟩

/-! ## Trimmed ends -/

/-- Trimming removes exactly an end of `p` that follows a character that fails `p`. -/
theorem trimEnd_append (hs : endsWith p s = false) (ht : ∀ c ∈ t, p c = true) :
    trimEnd p (s ++ t) = s := by
  have hrev : beginsWith p s.reverse = false := by simpa [beginsWith, endsWith] using hs
  rw [trimEnd, List.reverse_append,
    dropWhile_append_stop (fun c hc => ht c (List.mem_reverse.mp hc)) hrev, List.reverse_reverse]

theorem trimEnd_eq_self (hs : endsWith p s = false) : trimEnd p s = s := by
  simpa using trimEnd_append (t := []) hs (by simp)

/-- **A text is what trimming leaves and an end of `p`.** -/
theorem exists_trimEnd (p : Char → Bool) (t : Text) :
    ∃ s u, t = s ++ u ∧ endsWith p s = false ∧ ∀ c ∈ u, p c = true := by
  obtain ⟨u, s, hrev, hu, hs⟩ := exists_run p t.reverse
  refine ⟨s.reverse, u.reverse, ?_, ?_, fun c hc => hu c (List.mem_reverse.mp hc)⟩
  · rw [← List.reverse_append, ← hrev, List.reverse_reverse]
  · simpa [beginsWith, endsWith] using hs

/-- A text that neither begins nor ends in `p` is trimmed already. -/
theorem trim_eq_self (hb : beginsWith p t = false) (he : endsWith p t = false) :
    trim p t = t := by
  rw [trim, show t.dropWhile p = t from dropWhile_append_stop (s := []) (by simp) hb,
    trimEnd_eq_self he]

/-! ## Lines -/

/-- Characters before the line end belong to the line. -/
theorem line_append (hs : ∀ c ∈ s, isLineEnd c = false) : (s ++ t).line = s ++ t.line :=
  List.takeWhile_append_of_pos fun c hc => by simp [hs c hc]

/-- A text without line ends is its own line. -/
theorem line_eq_self (h : ∀ c ∈ t, isLineEnd c = false) : t.line = t :=
  List.takeWhile_eq_self_iff.mpr fun c hc => by simp [h c hc]

theorem not_isLineEnd_of_mem_line (h : c ∈ t.line) : isLineEnd c = false := by
  simpa using List.mem_takeWhile_imp h

theorem mem_of_mem_line (h : c ∈ t.line) : c ∈ t := (List.takeWhile_prefix _).subset h

theorem line_cons_of_lineEnd (h : isLineEnd c = true) : Text.line (c :: t) = [] :=
  List.takeWhile_cons_of_neg (by simp [h])

theorem line_eq_nil (h : beginsWith (fun c => !isLineEnd c) t = false) : t.line = [] :=
  takeWhile_append_stop (s := []) (by simp) h

/-- **A text is its line, and then nothing or a line end.** -/
theorem exists_line (t : Text) :
    ∃ u, t = t.line ++ u ∧ beginsWith (fun c => !isLineEnd c) u = false := by
  obtain ⟨s, u, rfl, hs, hu⟩ := exists_run (fun c => !isLineEnd c) t
  refine ⟨u, ?_, hu⟩
  rw [line_append fun c hc => by simpa using hs c hc, line_eq_nil hu, List.append_nil]

/-- **A line without the blanks at its end** — what a rule takes that runs to the line end. -/
theorem exists_trimmed_line (t : Text) :
    ∃ s rest, t = s ++ rest ∧ (∀ c ∈ s, isLineEnd c = false) ∧ endsWith isBlank s = false ∧
      ∀ c ∈ rest.line, isBlank c = true := by
  obtain ⟨u, ht, hu⟩ := exists_line t
  obtain ⟨s, w, hline, hs, hw⟩ := exists_trimEnd isBlank t.line
  have hno : ∀ c ∈ s ++ w, isLineEnd c = false := fun c hc =>
    not_isLineEnd_of_mem_line (hline ▸ hc)
  refine ⟨s, w ++ u, ?_, fun c hc => hno c (by simp [hc]), hs, ?_⟩
  · rw [← List.append_assoc, ← hline, ← ht]
  · rw [line_append fun c hc => hno c (by simp [hc]), line_eq_nil hu, List.append_nil]
    exact hw

/-- **Nothing after a line end belongs to the line.** -/
theorem line_append_of_lineEnd (h : isLineEnd c = true) : (s ++ c :: t).line = s.line := by
  induction s with
  | nil => exact line_cons_of_lineEnd h
  | cons d s ih =>
    rcases hd : isLineEnd d
    · have hone : ∀ e ∈ [d], isLineEnd e = false := by simpa using hd
      rw [List.cons_append, ← List.singleton_append, line_append hone, ih, ← line_append hone]
      rfl
    · rw [List.cons_append, line_cons_of_lineEnd hd, line_cons_of_lineEnd hd]

/-- Nothing is added to a line by a text that is empty or begins with a line end. -/
theorem line_append_stop (ht : beginsWith (fun c => !isLineEnd c) t = false) :
    (s ++ t).line = s.line := by
  cases t with
  | nil => rw [List.append_nil]
  | cons c t => exact line_append_of_lineEnd (by simpa using ht)

/-- A text begins as its line does, as far as characters are asked for that end no line. -/
theorem beginsWith_line (hp : ∀ c, isLineEnd c = true → p c = false) (t : Text) :
    beginsWith p t.line = beginsWith p t := by
  rcases t with _ | ⟨c, t⟩
  · rfl
  · rcases hc : isLineEnd c
    · rw [line, List.takeWhile_cons_of_pos (by simp [hc]), beginsWith_cons, beginsWith_cons]
    · rw [line_cons_of_lineEnd hc, beginsWith_nil, beginsWith_cons, hp c hc]

/-- So does a run of such characters at its front. -/
theorem takeWhile_line (hp : ∀ c, isLineEnd c = true → p c = false) (t : Text) :
    t.line.takeWhile p = t.takeWhile p := by
  rw [line, List.takeWhile_takeWhile]
  refine congrArg (fun q => t.takeWhile q) (funext fun c => ?_)
  rcases hc : isLineEnd c
  · simp
  · simp [hp c hc]

end Text

end BasicTokens
