import BasicTokens.Text

/-!
# Diagnostic/Level — how severe a problem is
-/

namespace BasicTokens

namespace Diagnostic

/-- Levels, from most to least severe. -/
inductive Level where
  | error
  | warning
  | note
  | help
deriving DecidableEq

namespace Level

/-- The word for a level. -/
def name : Level → Text
  | .error => "error".toList
  | .warning => "warning".toList
  | .note => "note".toList
  | .help => "help".toList

/-- The place of a level in the order, from most to least severe. -/
def rank : Level → Nat
  | .error => 0
  | .warning => 1
  | .note => 2
  | .help => 3

/-- Levels are ordered by severity, the most severe first. -/
instance : Ord Level := ⟨fun a b => compare a.rank b.rank⟩

/-- The less severe of two levels. -/
def later (a b : Level) : Level := if b.rank < a.rank then a else b

end Level

end Diagnostic

end BasicTokens
