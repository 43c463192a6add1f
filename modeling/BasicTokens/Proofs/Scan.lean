import BasicTokens.Lexeme.Scanner
import BasicTokens.Proofs.Front

/-!
# Proofs/Scan — the lexemes of a source as a derivation

    blanks  cut  blanks  cut  …  blanks

`Scan settings p t lexemes` reads a text from a place on by its cuts alone, without a cursor.  The
scanner computes it: one step is one cut (`Scanner.next?_of_cut`), the lexemes it finds are
derivable (`Scanner.scan_lexemes`) and nothing else is (`Scan.lexemes_eq`).  A statement about the
lexemes of a source is proved by induction on the derivation.
-/

namespace BasicTokens

open Character Text

namespace Lexeme

/-- The lexeme of a category and a text that begins at a place. -/
def placed (category : Category) (text : Text) (p : Position) : Lexeme where
  category := category
  text := text
  offset := p.offset
  span := ⟨p.byte, p.byte + text.byteLength, p.line, p.column⟩

/-- **A text read from a place on** — lexemes with blanks around them. -/
inductive Scan (settings : Settings) : Position → Text → List Lexeme → Prop
  | done {p : Position} {w : Text} (blank : ∀ c ∈ w, isBlank c = true) : Scan settings p w []
  | cut {p : Position} {w s rest : Text} {category : Category} {lexemes : List Lexeme}
      (blank : ∀ c ∈ w, isBlank c = true) (front : Cut settings category s rest)
      (more : Scan settings ((p.after w).after s) rest lexemes) :
      Scan settings p (w ++ (s ++ rest)) (placed category s (p.after w) :: lexemes)

end Lexeme

open Lexeme

namespace Scanner

variable {scanner : Scanner} {category : Category} {w s rest : Text}

/-- The scanner after a lexeme and the blanks in front of it. -/
def past (scanner : Scanner) (w s rest : Text) : Scanner where
  settings := scanner.settings
  cursor := ⟨scanner.cursor.source, rest, (scanner.cursor.position.after w).after s⟩

/-! ## One step -/

/-- The blanks in front are skipped, and no more. -/
theorem skipWhile_isBlank (hrest : scanner.cursor.rest = w ++ rest)
    (hw : ∀ c ∈ w, isBlank c = true) (hstop : beginsWith isBlank rest = false) :
    scanner.cursor.skipWhile isBlank
      = ⟨scanner.cursor.source, rest, scanner.cursor.position.after w⟩ := by
  rw [Cursor.skipWhile, hrest, takeWhile_append_stop hw hstop, Cursor.forward, hrest,
    List.drop_left, List.take_left]

theorem next?_eq_none (h : ∀ c ∈ scanner.cursor.rest, isBlank c = true) : scanner.next? = none := by
  have hrest : scanner.cursor.rest = scanner.cursor.rest ++ [] := by simp
  rw [next?, skipWhile_isBlank hrest h rfl]
  rfl

/-- **A step is a cut.** -/
theorem next?_of_cut (hrest : scanner.cursor.rest = w ++ (s ++ rest))
    (hw : ∀ c ∈ w, isBlank c = true) (h : Cut scanner.settings category s rest) :
    scanner.next?
      = some (placed category s (scanner.cursor.position.after w), scanner.past w s rest) := by
  have hstop : beginsWith isBlank (s ++ rest) = false :=
    (beginsWith_append h.ne_nil).trans h.beginsWith_isBlank
  have hend : (s ++ rest).isEmpty = false := by simp [h.ne_nil]
  have hcount : countWithin s.byteLength (s ++ rest) = s.length :=
    countWithin_byteLength_append s rest
  rw [next?, skipWhile_isBlank hrest hw hstop]
  simp only [Cursor.atEnd, hend, h.front_eq, Cursor.advanceBytes, hcount, Cursor.textTo_forward]
  simp [Cursor.forward, Cursor.spanFrom, placed, past, Position.byte_after]

/-- Every step there can be. -/
theorem next?_cases (scanner : Scanner) :
    ((∀ c ∈ scanner.cursor.rest, isBlank c = true) ∧ scanner.next? = none) ∨
      ∃ w category s rest, scanner.cursor.rest = w ++ (s ++ rest) ∧ (∀ c ∈ w, isBlank c = true) ∧
        Cut scanner.settings category s rest ∧ scanner.next? = some
          (placed category s (scanner.cursor.position.after w), scanner.past w s rest) := by
  obtain ⟨w, u, hrest, hw, hu⟩ := exists_run isBlank scanner.cursor.rest
  by_cases hne : u = []
  · have hblank : ∀ c ∈ scanner.cursor.rest, isBlank c = true := by simpa [hrest, hne] using hw
    exact Or.inl ⟨hblank, next?_eq_none hblank⟩
  · obtain ⟨category, s, rest, rfl, hcut⟩ := exists_cut scanner.settings hne hu
    exact Or.inr ⟨w, category, s, rest, hrest, hw, hcut, next?_of_cut hrest hw hcut⟩

/-! ## All steps -/

/-- **The lexemes a scanner finds are derivable.** -/
theorem scan_lexemes (scanner : Scanner) :
    Scan scanner.settings scanner.cursor.position scanner.cursor.rest scanner.lexemes := by
  induction scanner using Scanner.lexemes.induct with
  | case1 scanner hnext =>
    rw [lexemes_of_none hnext]
    rcases scanner.next?_cases with ⟨hblank, -⟩ | ⟨w, category, s, rest, -, -, -, hsome⟩
    · exact .done hblank
    · simp [hnext] at hsome
  | case2 scanner lexeme scanner' hnext ih =>
    rw [lexemes_of_some hnext]
    rcases scanner.next?_cases with ⟨-, hnone⟩ | ⟨w, category, s, rest, hrest, hw, hcut, hsome⟩
    · simp [hnext] at hnone
    · obtain ⟨rfl, rfl⟩ := Prod.mk.inj (Option.some.inj (hnext.symm.trans hsome))
      exact hrest ▸ .cut hw hcut ih

end Scanner

namespace Lexeme

variable {settings : Settings} {p : Position} {t : Text} {lexemes : List Lexeme} {l : Lexeme}

/-- **…and nothing else is derivable.** -/
theorem Scan.lexemes_eq (h : Scan settings p t lexemes) : ∀ scanner : Scanner,
    scanner.settings = settings → scanner.cursor.position = p → scanner.cursor.rest = t →
      scanner.lexemes = lexemes := by
  induction h with
  | done blank =>
    rintro scanner rfl rfl rfl
    exact Scanner.lexemes_of_none (Scanner.next?_eq_none blank)
  | cut blank front more ih =>
    rintro scanner rfl rfl hrest
    rw [Scanner.lexemes_of_some (Scanner.next?_of_cut hrest blank front)]
    exact congrArg _ (ih _ rfl rfl rfl)

theorem scan_ofSource (settings : Settings) (source : Text) :
    Scan settings .origin source (ofSource settings source) :=
  (Scanner.ofSource settings source).scan_lexemes

theorem Scan.ofSource_eq (h : Scan settings .origin t lexemes) : ofSource settings t = lexemes :=
  h.lexemes_eq (.ofSource settings t) rfl rfl rfl

/-- **A text has one derivation's lexemes** under given settings. -/
theorem Scan.unique {lexemes' : List Lexeme} (h : Scan settings p t lexemes)
    (h' : Scan settings p t lexemes') : lexemes = lexemes' := by
  let scanner : Scanner := ⟨settings, ⟨t, t, p⟩⟩
  exact (h.lexemes_eq scanner rfl rfl rfl).symm.trans (h'.lexemes_eq scanner rfl rfl rfl)

/-! ## The lexemes of a derivation -/

/-- **Every lexeme is a cut, placed after the text before it.** -/
theorem Scan.exists_cut_of_mem (h : Scan settings p t lexemes) (hl : l ∈ lexemes) :
    ∃ before category s after, t = before ++ (s ++ after) ∧ Cut settings category s after ∧
      l = placed category s (p.after before) := by
  induction h with
  | done => simp at hl
  | @cut p w s rest category lexemes blank front more ih =>
    rcases List.mem_cons.mp hl with rfl | hl
    · exact ⟨w, category, s, rest, rfl, front, rfl⟩
    · obtain ⟨before, category', s', after, rfl, hcut, rfl⟩ := ih hl
      refine ⟨w ++ (s ++ before), category', s', after, by simp, hcut, ?_⟩
      rw [Position.after_append, Position.after_append]

/-- **Every lexeme takes a character that is no blank.** -/
theorem Scan.length_le_countP (h : Scan settings p t lexemes) :
    lexemes.length ≤ t.countP (!isBlank ·) := by
  induction h with
  | done => exact Nat.zero_le _
  | @cut p w s rest category lexemes blank front more ih =>
    have hpos : 0 < s.countP (!isBlank ·) := by
      obtain ⟨c, s, rfl⟩ := List.exists_cons_of_ne_nil front.ne_nil
      have hc : isBlank c = false := front.beginsWith_isBlank
      exact List.countP_pos_iff.mpr ⟨c, List.mem_cons_self, by simp [hc]⟩
    rw [List.length_cons, List.countP_append, List.countP_append]
    omega

/-- …so there are no more lexemes than characters. -/
theorem Scan.length_le (h : Scan settings p t lexemes) : lexemes.length ≤ t.length :=
  h.length_le_countP.trans List.countP_le_length

end Lexeme

end BasicTokens
