/-!
# Journal — entries in the order in which they were written

A journal grows at one end only.  It keeps its newest entry at hand; `entries` is what a reader
sees, and `entries_write` is all that writing does to it.
-/

namespace BasicTokens

/-- Entries written one after the other. -/
structure Journal (α : Type) where
  newestFirst : List α := []
deriving DecidableEq

namespace Journal

variable {α : Type}

/-- The journal without entries. -/
def empty : Journal α := {}

/-- The journal with one more entry. -/
def write (j : Journal α) (a : α) : Journal α := ⟨a :: j.newestFirst⟩

/-- The entries, oldest first. -/
def entries (j : Journal α) : List α := j.newestFirst.reverse

@[simp] theorem entries_empty : (empty : Journal α).entries = [] := rfl

@[simp] theorem entries_write (j : Journal α) (a : α) :
    (j.write a).entries = j.entries ++ [a] := by
  simp [write, entries]

end Journal

end BasicTokens
