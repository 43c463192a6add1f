import BasicTokens.Decimal.Shortest
import BasicTokens.Settings.Format
import BasicTokens.Text.Quoted
import BasicTokens.Toml.Document
import BasicTokens.Toml.Excerpt

/-!
# Settings/Document — the format in which settings are written down

`toml` is one format, the one that runs.  What is said of settings in documents does not depend on
how it reads them: it is relied on only for what every format is (`toml_documentOrder`,
`toml_derivedVisitor`, `toml_valueForms`).  Settings written in it are read back as they were
(`ofDocument_render`).
-/

namespace BasicTokens

namespace Settings

namespace Document

/-- A key and its value. -/
abbrev Entry := Toml.Entry Toml.Value

/-! ## What can be wrong -/

/-- Why a document holds no settings. -/
inductive Problem where
  /-- It is not a document at all. -/
  | malformed
  /-- A key is not the name of a setting. -/
  | unknownField (name : Text) (span : Span)
  /-- A setting that must be there is missing. -/
  | missingField (name : Text)
  /-- A policy is not one of those that exist. -/
  | unknownPolicy (name : Text) (span : Span)
  /-- A value can be no policy. -/
  | unfitPolicy
  /-- A value is not a boolean. -/
  | notBoolean (found : Toml.Value) (span : Span)

/-- A value as a message names it. -/
def describe : Toml.Value → Text
  | .string t => "string ".toList ++ t.quoted
  | .integer n =>
    "integer `".toList ++ (if n < 0 then ['-'] else []) ++ Text.decimal n.natAbs ++ "`".toList
  | .float x => "floating point `".toList ++ Decimal.ofFloat x ++ "`".toList
  | .boolean b => "boolean `".toList ++ (if b then "true" else "false").toList ++ "`".toList
  | .array _ | .tables _ => "sequence".toList
  | .table .. | .dateTime => "map".toList

/-- Where a problem is, and what it is, if that can be said. -/
def Problem.reason? : Problem → Option (Span × Text)
  | .malformed | .missingField _ | .unfitPolicy => none
  | .unknownField name span =>
    some (span, "unknown field `".toList ++ name ++ "`, expected `".toList
      ++ unterminatedStringsName ++ "` or `".toList ++ caseInsensitiveRemarksName ++ "`".toList)
  | .unknownPolicy name span =>
    some (span, "unknown variant `".toList ++ name ++ "`, expected `".toList
      ++ UnterminatedStrings.reject.name ++ "` or `".toList
      ++ UnterminatedStrings.extendToLineEnd.name ++ "`".toList)
  | .notBoolean found span =>
    some (span, "invalid type: ".toList ++ describe found ++ ", expected a boolean".toList)

/-! ## Values -/

/-- Where the value of an entry stands: at its text, or at the key if it has no text of its own. -/
def place (e : Entry) : Span := e.span.getD e.key.span

/-- What the value of an entry is. -/
def shape (e : Entry) : Shape Entry :=
  match e.value with
  | .string t => .string t
  | .boolean b => .boolean b
  | .table _ es => .table es
  | .array items => .array items.length
  | .tables elements => .array elements.length
  | .integer _ | .float _ | .dateTime => .other

/-- The variant that a value names: it is the name, or a table with the name as its one key. -/
def variant (e : Entry) : Except Problem (Text × Option Entry) :=
  match shape e with
  | .string name => .ok (name, none)
  | .table [content] => .ok (content.key.name, some content)
  | _ => .error .unfitPolicy

theorem variant_other {e : Entry} (hname : ∀ name, shape e ≠ .string name)
    (htable : ∀ content, shape e ≠ .table [content]) : variant e = .error .unfitPolicy := by
  unfold variant
  split
  · exact absurd ‹_› (hname _)
  · exact absurd ‹_› (htable _)
  · rfl

/-- The content of a variant that takes none. -/
def unit : Option Entry → Except Problem Unit
  | none => .ok ()
  | some e => if (shape e).Vacant then .ok () else .error .unfitPolicy

/-- A name that is no policy, at the key or the string that is the name. -/
def unknownVariant (e : Entry) (name : Text) : Problem :=
  match e.value with
  | .table _ [content] => .unknownPolicy name content.key.span
  | _ => .unknownPolicy name (place e)

/-- The policy that a value is. -/
def policy (S : Schema) (e : Entry) : Except Problem UnterminatedStrings := do
  let (name, content) ← variant e
  match S.policy? name with
  | some policy => do unit content; return policy
  | none => throw (unknownVariant e name)

/-- The boolean that a value is. -/
def boolean (e : Entry) : Except Problem Bool :=
  match shape e with
  | .boolean on => .ok on
  | _ => .error (.notBoolean e.value (place e))

theorem boolean_other {e : Entry} (h : ∀ on, shape e ≠ .boolean on) :
    boolean e = .error (.notBoolean e.value (place e)) := by
  unfold boolean
  split
  · exact absurd ‹_› (h _)
  · rfl

/-! ## Tables -/

/-- The settings that entries make, each in the slot of its key. -/
def visit (S : Schema) : Slots → List Entry → Except Problem Settings
  | slots, [] => (S.settings slots).mapError .missingField
  | slots, e :: es =>
    if e.key.name = S.policyName then
      (policy S e).bind fun policy => visit S { slots with policy := some policy } es
    else if e.key.name = S.remarksName then
      (boolean e).bind fun on => visit S { slots with remarks := some on } es
    else if S.deniesUnknown then .error (.unknownField e.key.name e.key.span)
    else visit S slots es

/-- The entries of a document. -/
def entries (source : Text) : Except Problem (List Entry) :=
  match Toml.Table.parse? source with
  | none => .error .malformed
  | some t => .ok t

end Document

open Document

/-- **The format in use.** -/
def toml : Format where
  Entry := Entry
  Problem := Problem
  key e := e.key.name
  shape := shape
  entries := entries
  read S source := do visit S {} (← entries source)
  visit := visit
  policy := policy
  boolean := boolean
  variant := variant
  unit := unit
  unknownField e := .unknownField e.key.name e.key.span
  missingField := .missingField
  unknownVariant := unknownVariant
  describe source problem :=
    problem.reason?.map fun (span, reason) => Toml.excerpt source span reason

/-- The entries are those of the topmost table. -/
theorem entries_toml {source : Text} {t : Toml.Table} (h : Toml.Table.parse? source = some t) :
    toml.entries source = .ok t := by
  change entries source = .ok t
  rw [entries, h]

theorem toml_documentOrder : toml.DocumentOrder where
  nodup {source es} h := by
    change entries source = .ok es at h
    rw [entries] at h
    split at h
    · simp at h
    · obtain rfl := Except.ok.inj h
      exact Toml.Table.nodup_parse? ‹_›
  read_eq _ _ := rfl

theorem toml_derivedVisitor : toml.DerivedVisitor where
  visit_nil _ _ := rfl
  visit_policy h _ _ := if_pos h
  visit_remarks hpolicy h _ _ := (if_neg hpolicy).trans (if_pos h)
  visit_unknown hpolicy hremarks _ _ := (if_neg hpolicy).trans (if_neg hremarks)

theorem toml_valueForms : toml.ValueForms where
  policy_eq _ _ := rfl
  variant_string {e name} (h : Document.shape e = .string name) := by
    change Document.variant e = _
    simp only [variant, h]
    rfl
  variant_table {e content} (h : Document.shape e = .table [content]) := by
    change Document.variant e = _
    simp only [variant, h]
    rfl
  variant_other hname htable := ⟨_, Document.variant_other hname htable⟩
  unit_none := rfl
  unit_vacant h := if_pos h
  unit_filled h := ⟨_, if_neg h⟩
  boolean_boolean {e on} (h : Document.shape e = .boolean on) := by
    change Document.boolean e = _
    simp only [boolean, h]
    rfl
  boolean_other h := ⟨_, Document.boolean_other h⟩

/-! ## Writing -/

/-- A document that sets both settings, one a line. -/
def render (s : Settings) : Text :=
  unterminatedStringsName ++ " = \"".toList ++ s.unterminatedStrings.name ++ "\"\n".toList
    ++ caseInsensitiveRemarksName ++ " = ".toList
    ++ (if s.caseInsensitiveRemarks then "true" else "false").toList ++ "\n".toList

/-- **What is written is read back.** -/
theorem ofDocument_render (s : Settings) : ofDocument toml s.render = .ok s := by
  obtain ⟨policy, anyCase⟩ := s
  cases policy <;> cases anyCase <;> rfl

end Settings

end BasicTokens
