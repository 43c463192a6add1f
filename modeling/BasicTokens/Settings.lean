import BasicTokens.Text

/-!
# Settings — the two choices that tokenization leaves open
-/

namespace BasicTokens

/-- What becomes of a quote with no closing quote on its line. -/
inductive UnterminatedStrings where
  /-- The quote stands by itself as an unknown token, and reading goes on right after it. -/
  | reject
  /-- The quote and the rest of its line, less trailing blanks, become a string token. -/
  | extendToLineEnd
deriving DecidableEq

namespace UnterminatedStrings

/-- The name of a policy. -/
def name : UnterminatedStrings → Text
  | reject => "reject".toList
  | extendToLineEnd => "extend-to-line-end".toList

/-- The policy of a name. -/
def ofName? (t : Text) : Option UnterminatedStrings :=
  if t = name reject then some reject
  else if t = name extendToLineEnd then some extendToLineEnd
  else none

theorem ofName?_name (p : UnterminatedStrings) : ofName? p.name = some p := by
  cases p <;> decide

theorem ofName?_eq_some_iff {t : Text} {p : UnterminatedStrings} :
    ofName? t = some p ↔ t = p.name := by
  refine ⟨fun h => ?_, fun h => h ▸ ofName?_name p⟩
  unfold ofName? at h
  split at h
  · simp_all
  · split at h <;> simp_all

end UnterminatedStrings

/-- How to tokenize. -/
structure Settings where
  /-- The treatment of strings that are not closed. -/
  unterminatedStrings : UnterminatedStrings := .reject
  /-- Whether the comment marker is recognized in any case. -/
  caseInsensitiveRemarks : Bool := false
deriving DecidableEq

/-- The settings that hold where nothing else is said. -/
def Settings.standard : Settings := {}

end BasicTokens
