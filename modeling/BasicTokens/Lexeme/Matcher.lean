import BasicTokens.Grammar
import BasicTokens.Lexeme
import BasicTokens.Settings

/-!
# Lexeme/Matcher — how long the lexeme at the front of the unread text is

A matcher looks at the unread text and answers with the length in bytes of the lexeme that begins
there, if its rule applies.  The matchers are tried in a fixed order and the first answer counts;
where none answers, one character is cut (`front`).
-/

namespace BasicTokens

namespace Lexeme

open Character Grammar

/-- Looks at the front of the unread text and measures the lexeme there in bytes. -/
abbrev Matcher := Settings → Text → Option Nat

namespace Matcher

/-- The comment marker and the rest of its line, less trailing blanks. -/
def comment : Matcher := fun settings t =>
  if startsRemark settings.caseInsensitiveRemarks t then
    some (t.line.trimEnd isBlank).byteLength
  else none

/-- A quote up to the next one on the same line.  If there is none, the policy decides: no match, or
the rest of the line less trailing blanks. -/
def string : Matcher := fun settings t =>
  match t with
  | '"' :: body =>
    let inner : Text := body.takeWhile fun c => c != '"' && !isLineEnd c
    if (body.drop inner.length).head? = some '"' then some (inner.byteLength + 2)
    else match settings.unterminatedStrings with
      | .reject => none
      | .extendToLineEnd => some (1 + (inner.trimEnd isBlank).byteLength)
  | _ => none

/-- The digits after a point at the front of a text. -/
def fraction : Text → Text
  | '.' :: t => t.takeWhile Char.isDigit
  | _ => []

/-- Digits, and a point with the digits after it if there are any. -/
def number : Matcher := fun _ t =>
  let whole : Text := t.takeWhile Char.isDigit
  let fraction := fraction (t.drop whole.length)
  if whole.isEmpty then none
  else if fraction.isEmpty then some whole.byteLength
  else some (whole.byteLength + 1 + fraction.byteLength)

/-- A letter or underscore and the name characters after it, counted: each is one byte. -/
def word : Matcher := fun _ t =>
  match t with
  | [] => none
  | c :: t => if isNameStart c then some (1 + (t.takeWhile isNamePart).length) else none

/-- One of the relations written with two characters. -/
def relational : Matcher := fun _ t =>
  ([['<', '>'], ['<', '='], ['>', '=']].find? (·.isPrefixOf t)).map Text.byteLength

/-- One of the symbols written with one character. -/
def single : Matcher := fun _ t =>
  match t with
  | [] => none
  | c :: _ => if ['=', '+', '-', '*', '/', '<', '>', '(', ')', ','].contains c then some 1 else none

/-- The matchers in the order in which they are tried. -/
def ordered : List (Category × Matcher) :=
  [(.comment, comment), (.string, string), (.number, number), (.word, word),
   (.relational, relational), (.single, single)]

end Matcher

/-- The category and the length in bytes of the lexeme at the front of a text: the first positive
answer of a matcher, or else one character. -/
def front (settings : Settings) (t : Text) : Category × Nat :=
  (Matcher.ordered.findSome? fun rule =>
    ((rule.2 settings t).filter (0 < ·)).map (rule.1, ·)).getD
      (.stray, Text.byteLength (t.take 1))

/-- **A lexeme is never empty.** -/
theorem front_pos (settings : Settings) {t : Text} (ht : t ≠ []) : 0 < (front settings t).2 := by
  unfold front
  cases h : Matcher.ordered.findSome? fun rule =>
      ((rule.2 settings t).filter (0 < ·)).map (rule.1, ·) with
  | none =>
    obtain ⟨c, t, rfl⟩ := List.exists_cons_of_ne_nil ht
    simpa using c.utf8Size_pos
  | some found =>
    obtain ⟨rule, -, hrule⟩ := List.exists_of_findSome?_eq_some h
    obtain ⟨n, hn, rfl⟩ := Option.map_eq_some_iff.mp hrule
    simpa using (Option.filter_eq_some_iff.mp hn).2

end Lexeme

end BasicTokens
