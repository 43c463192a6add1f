import BasicTokens.Proofs.Coordinates
import BasicTokens.Proofs.Run

/-!
# Proofs/Lines — a source is tokenized line by line

No cut looks past the line of what follows (`Cut.of_line_eq`), so what is read before a line end is
read as if the text ended there (`Scan.append_lineEnd`), and what is read after it is read as if it
stood alone, save for its place (`Scan.transport`).  A line feed moves the place by a `Shift`, which
tokens and diagnostics show; of a lone carriage return, tokens show the same.
-/

namespace BasicTokens

open Character Text

variable {d : Shift}

/-! ## Reports and tokens further on -/

/-- The same error further on. -/
def LexicalError.shift (e : LexicalError) (d : Shift) : LexicalError :=
  match e with
  | unrecognizedCharacter text offset => unrecognizedCharacter text (offset + d.characters)
  | unterminatedString text offset recovered =>
    unterminatedString text (offset + d.characters) recovered
  | malformedNumber text offset => malformedNumber text (offset + d.characters)
  | unknownToken text offset => unknownToken text (offset + d.characters)

/-- **The same report further on**: of the same error at its later offset, with the span moved. -/
def Diagnostic.Shifted (d : Shift) (before after : Diagnostic) : Prop :=
  ∃ (error : LexicalError) (span : Span),
    before = error.report span ∧ after = (error.shift d).report (span.shift d)

namespace Token

/-- The same token further on. -/
def shift (t : Token) (d : Shift) : Token := { t with offset := t.offset + d.characters }

variable {settings : Settings} {t : Text} {offset : Nat}

theorem ofTrimmed_shift :
    ofTrimmed settings t (offset + d.characters) = (ofTrimmed settings t offset).shift d := by
  unfold ofTrimmed
  split
  · rfl
  split
  · rfl
  split
  · rfl
  split
  · rfl
  split
  · rfl
  split
  · rfl
  split <;> rfl

theorem classify_shift :
    classify settings t (offset + d.characters) = (classify settings t offset).shift d := by
  rw [classify, Nat.add_right_comm, ofTrimmed_shift]
  rfl

theorem unknownCause_shift :
    unknownCause t (offset + d.characters) = (unknownCause t offset).shift d := by
  unfold unknownCause
  split
  · rfl
  · split
    · rfl
    · split <;> rfl
  · split
    · rfl
    · split <;> rfl

/-- What is wrong with a token does not depend on its place. -/
theorem problem?_shift (t : Token) : (t.shift d).problem? = t.problem?.map (·.shift d) := by
  unfold problem? shift
  split
  · rename_i hkind
    rw [hkind, Option.map_some, unknownCause_shift]
  · rename_i hkind
    rw [hkind]
    split <;> rfl
  · rfl

end Token

namespace Lexeme

variable {settings : Settings} {p q : Position} {s t w : Text} {l m : Lexeme}
  {lexemes lexemes' : List Lexeme} {R : Position → Position → Prop}

/-! ## Lexemes further on -/

/-- The same lexeme from another place, the places being related by `R`. -/
def Moved (R : Position → Position → Prop) (l m : Lexeme) : Prop :=
  ∃ category text p q, R p q ∧ l = placed category text p ∧ m = placed category text q

theorem Moved.token_eq (h : Moved R l m)
    (hR : ∀ {p q}, R p q → q.offset = p.offset + d.characters) :
    m.token settings = (l.token settings).shift d := by
  obtain ⟨category, text, p, q, hpq, rfl, rfl⟩ := h
  refine (congrArg (Token.classify settings text) (hR hpq)).trans ?_
  exact Token.classify_shift

theorem Moved.diagnostic?_rel (h : Moved (fun p q => q = p.shift d) l m) :
    Option.Rel (Diagnostic.Shifted d) (l.diagnostic? settings) (m.diagnostic? settings) := by
  have htoken : m.token settings = (l.token settings).shift d := by
    refine h.token_eq ?_
    rintro p q rfl
    rfl
  have hspan : m.span = l.span.shift d := by
    obtain ⟨category, text, p, q, rfl, rfl, rfl⟩ := h
    simp only [placed, Span.shift, Position.shift, Nat.add_right_comm p.byte]
  rw [diagnostic?, diagnostic?, htoken, hspan, Token.problem?_shift]
  rcases (l.token settings).problem? with _ | error
  · exact .none
  · exact .some ⟨error, l.span, rfl, rfl⟩

/-- **A text is read the same from another place.** -/
theorem Scan.transport (hR : ∀ {p q c}, R p q → R (p.step c) (q.step c))
    (h : Scan settings p t lexemes) : ∀ {q}, R p q →
      ∃ lexemes', Scan settings q t lexemes' ∧ List.Forall₂ (Moved R) lexemes lexemes' := by
  have hafter : ∀ (t : Text) {p q}, R p q → R (p.after t) (q.after t) := by
    intro t
    induction t with
    | nil => exact fun hpq => hpq
    | cons c t ih => exact fun hpq => ih (hR hpq)
  induction h with
  | done blank => exact fun hpq => ⟨[], .done blank, .nil⟩
  | @cut p w s rest category lexemes blank front more ih =>
    intro q hpq
    obtain ⟨lexemes', hscan, hmoved⟩ := ih (hafter s (hafter w hpq))
    exact ⟨_, .cut blank front hscan, .cons ⟨category, s, _, _, hafter w hpq, rfl, rfl⟩ hmoved⟩

/-! ## A line end between two texts -/

/-- Blanks in front are skipped. -/
theorem Scan.blank_append (hw : ∀ c ∈ w, isBlank c = true)
    (h : Scan settings (p.after w) t lexemes) : Scan settings p (w ++ t) lexemes := by
  cases h with
  | done blank => exact .done fun c hc => (List.mem_append.mp hc).elim (hw c) (blank c)
  | @cut _ w' s rest category lexemes blank front more =>
    rw [← Position.after_append p w w'] at more ⊢
    rw [← List.append_assoc]
    exact .cut (fun c hc => (List.mem_append.mp hc).elim (hw c) (blank c)) front more

/-- **A text is read up to a line end**, and then what follows it. -/
theorem Scan.append {a b : Text} (hb : beginsWith (fun c => !isLineEnd c) b = false)
    (ha : Scan settings p a lexemes) : Scan settings (p.after a) b lexemes' →
      Scan settings p (a ++ b) (lexemes ++ lexemes') := by
  induction ha with
  | done blank => exact fun hscan => hscan.blank_append blank
  | @cut p w s rest category lexemes blank front more ih =>
    intro hscan
    have hfront : Cut settings category s (rest ++ b) :=
      front.of_line_eq (line_append_stop hb).symm
    rw [Position.after_append, Position.after_append] at hscan
    rw [List.append_assoc, List.append_assoc]
    exact .cut blank hfront (ih hscan)

/-- **A line end is read like the end of the text**, and reading goes on after it. -/
theorem Scan.append_lineEnd {a b : Text} {c : Char} (hc : isLineEnd c = true)
    (ha : Scan settings p a lexemes) (hb : Scan settings (p.after (a ++ [c])) b lexemes') :
    Scan settings p (a ++ c :: b) (lexemes ++ lexemes') := by
  rw [Position.after_append] at hb
  have hblank : ∀ e ∈ [c], isBlank e = true := by simpa using isBlank_of_isLineEnd hc
  exact ha.append (by simpa using hc) (hb.blank_append hblank)

/-- The lexemes of two texts with a line end between them. -/
theorem ofSource_append_lineEnd (settings : Settings) {a b : Text} {c : Char}
    (hc : isLineEnd c = true) (hR : ∀ {p q c}, R p q → R (p.step c) (q.step c))
    (hab : R .origin (Position.origin.after (a ++ [c]))) :
    ∃ lexemes, ofSource settings (a ++ c :: b) = ofSource settings a ++ lexemes ∧
      List.Forall₂ (Moved R) (ofSource settings b) lexemes := by
  obtain ⟨lexemes, hscan, hmoved⟩ := (scan_ofSource settings b).transport hR hab
  exact ⟨lexemes, ((scan_ofSource settings a).append_lineEnd hc hscan).ofSource_eq, hmoved⟩

theorem map_token_of_moved (h : List.Forall₂ (Moved R) lexemes lexemes')
    (hR : ∀ {p q}, R p q → q.offset = p.offset + d.characters) :
    lexemes'.map (·.token settings) = (lexemes.map (·.token settings)).map (·.shift d) := by
  induction h with
  | nil => rfl
  | cons hmoved _ ih =>
    rw [List.map_cons, List.map_cons, List.map_cons, hmoved.token_eq hR, ih]

end Lexeme

open Lexeme

end BasicTokens
