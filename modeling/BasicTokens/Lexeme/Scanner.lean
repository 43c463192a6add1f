import BasicTokens.Cursor
import BasicTokens.Lexeme.Matcher

/-!
# Lexeme/Scanner — a source cut into lexemes

A scanner skips blanks, measures the lexeme at the front and moves past it.  Every lexeme takes at
least one character (`length_rest_next?`), so the lexemes of a source are a finite list.
-/

namespace BasicTokens

/-- A place in a source, and how to cut what is left. -/
structure Scanner where
  settings : Settings
  cursor : Cursor
deriving DecidableEq

namespace Scanner

/-- The scanner before the first character of a source. -/
def ofSource (settings : Settings) (source : Text) : Scanner := ⟨settings, .ofSource source⟩

/-- The next lexeme and the scanner after it; none once only blanks are left. -/
def next? (s : Scanner) : Option (Lexeme × Scanner) :=
  let start := s.cursor.skipWhile Character.isBlank
  if start.atEnd then none
  else
    let (category, length) := Lexeme.front s.settings start.rest
    let stop := start.advanceBytes length
    some
      ({ category
         text := start.textTo stop
         offset := start.position.offset
         span := stop.spanFrom start.position },
       { s with cursor := stop })

/-- **A lexeme takes at least one character.** -/
theorem length_rest_next? {s s' : Scanner} {l : Lexeme} (h : s.next? = some (l, s')) :
    s'.cursor.rest.length < s.cursor.rest.length := by
  unfold next? at h
  simp only at h
  split at h
  · simp at h
  · rename_i hend
    obtain ⟨-, rfl⟩ := Prod.mk.inj (Option.some.inj h)
    have hne : (s.cursor.skipWhile Character.isBlank).rest ≠ [] := by
      simpa [Cursor.atEnd] using hend
    exact Nat.lt_of_lt_of_le
      (Cursor.length_rest_advanceBytes_lt (Lexeme.front_pos s.settings hne) hne)
      (Cursor.length_rest_skipWhile_le _ _)

/-- All lexemes that are left, in order. -/
def lexemes (s : Scanner) : List Lexeme :=
  match _h : s.next? with
  | none => []
  | some (lexeme, s') => lexeme :: s'.lexemes
termination_by s.cursor.rest.length
decreasing_by exact length_rest_next? _h

theorem lexemes_of_none {s : Scanner} (h : s.next? = none) : s.lexemes = [] := by
  rw [lexemes]; split <;> simp_all

theorem lexemes_of_some {s s' : Scanner} {l : Lexeme} (h : s.next? = some (l, s')) :
    s.lexemes = l :: s'.lexemes := by
  rw [lexemes]; split <;> simp_all

end Scanner

/-- The lexemes of a source. -/
def Lexeme.ofSource (settings : Settings) (source : Text) : List Lexeme :=
  (Scanner.ofSource settings source).lexemes

end BasicTokens
