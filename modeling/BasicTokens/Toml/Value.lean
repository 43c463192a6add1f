import BasicTokens.Span

/-!
# Toml/Value — what a document says

A document is a table: keys with values, in the order in which they were first written.  A table
remembers how it came to be (`Form`), since that decides whether it may still grow.
-/

namespace BasicTokens

namespace Toml

/-- A key as it was written. -/
structure Key where
  name : Text
  span : Span
deriving DecidableEq

/-- How a table came to be. -/
inductive Form where
  /-- By a header of its own, or as the document itself. -/
  | headed
  /-- As a parent of a table with a header. -/
  | implied
  /-- By a dotted key. -/
  | dotted
  /-- In braces, complete at once. -/
  | inline
deriving DecidableEq

/-- A key and what belongs to it.  There is no span for what has no text of its own. -/
structure Entry (α : Type) where
  key : Key
  span : Option Span
  value : α

/-- A value of any kind. -/
inductive Value where
  | string (text : Text)
  | integer (n : Int)
  | float (x : Float)
  | boolean (b : Bool)
  | dateTime
  | array (items : List Value)
  | table (form : Form) (entries : List (Entry Value))
  | tables (elements : List (Span × List (Entry Value)))

/-- Entries in order. -/
abbrev Table := List (Entry Value)

/-- The names of the keys, in order. -/
def Table.names (t : Table) : List Text := t.map (·.key.name)

/-- The entry under a name. -/
def Table.find? (t : Table) (name : Text) : Option (Entry Value) :=
  List.find? (·.key.name == name) t

/-- The table without the entry under a name. -/
def Table.erase (t : Table) (name : Text) : Table := t.filter (·.key.name != name)

/-- The table with another value, and another span, under a name that it has. -/
def Table.update (t : Table) (name : Text) (span : Option Span) (value : Value) : Table :=
  t.map fun e => if e.key.name == name then { e with span, value } else e

namespace Table

@[simp] theorem names_append (s t : Table) : names (s ++ t) = s.names ++ t.names :=
  List.map_append

@[simp] theorem names_update (t : Table) (name : Text) (span : Option Span) (value : Value) :
    (t.update name span value).names = t.names := by
  simp only [names, update, List.map_map]
  refine List.map_congr_left fun e _ => ?_
  simp only [Function.comp_apply]
  split <;> rfl

theorem find?_eq_none_iff {t : Table} {name : Text} :
    t.find? name = none ↔ name ∉ t.names := by
  simp [find?, names, List.find?_eq_none]

theorem find?_erase (t : Table) (name : Text) : (t.erase name).find? name = none := by
  simp [find?, erase]

/-! ## Distinct names -/

theorem nodup_concat {t : Table} {e : Entry Value} (ht : t.names.Nodup)
    (he : t.find? e.key.name = none) : (names (t ++ [e])).Nodup := by
  rw [names_append, List.nodup_append]
  refine ⟨ht, by simp [names], fun name hname other hother => ?_⟩
  obtain rfl : other = e.key.name := by simpa [names] using hother
  rintro rfl
  exact find?_eq_none_iff.mp he hname

theorem nodup_erase {t : Table} (name : Text) (ht : t.names.Nodup) :
    (t.erase name).names.Nodup :=
  (List.filter_sublist.map _).nodup ht

end Table

end Toml

end BasicTokens
