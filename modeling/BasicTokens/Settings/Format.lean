import BasicTokens.Settings

/-!
# Settings/Format — settings in documents of some format

    unterminated_strings = "reject"         entries: a key, and a value that has a shape
    case_insensitive_remarks = true

What is declared about settings is a `schema`: their names, what stands for one that is missing, and
that there are no others.  A format reads a text into the entries of its topmost table and, given a
schema, settings off these.  How it does so is its own affair; what is relied on is said in three
groups of assumptions.  The entries are visited in the order of the document (`DocumentOrder`), each
fills the slot of its key (`DerivedVisitor`), and its value fills the slot only if it has one of a
few forms (`ValueForms`).
-/

namespace BasicTokens

namespace Settings

/-- The name of the treatment of unterminated strings in a document. -/
def unterminatedStringsName : Text := "unterminated_strings".toList

/-- The name of the treatment of the comment marker in a document. -/
def caseInsensitiveRemarksName : Text := "case_insensitive_remarks".toList

/-- The conventional name of a file that holds settings. -/
def fileName : Text := "basic-lex.toml".toList

/-! ## Schemas -/

/-- What is declared about settings to a format. -/
structure Schema where
  policyName : Text
  remarksName : Text
  /-- The policy of a name. -/
  policy? : Text → Option UnterminatedStrings
  /-- What stands for a policy that is missing; none if it must be there. -/
  policyDefault : Option UnterminatedStrings
  /-- What stands for the treatment of remarks if it is missing; none if it must be there. -/
  remarksDefault : Option Bool
  /-- Whether there must be no other names. -/
  deniesUnknown : Bool

/-- **The schema of settings**: none needs to be there, and no others may. -/
def schema : Schema where
  policyName := unterminatedStringsName
  remarksName := caseInsensitiveRemarksName
  policy? := UnterminatedStrings.ofName?
  policyDefault := some standard.unterminatedStrings
  remarksDefault := some standard.caseInsensitiveRemarks
  deniesUnknown := true

/-- What the entries visited so far have set. -/
structure Slots where
  policy : Option UnterminatedStrings := none
  remarks : Option Bool := none

/-- The settings in the slots and, for an empty one, what stands for it; the name of one that is
missing, if nothing does. -/
def Schema.settings (S : Schema) (slots : Slots) : Except Text Settings :=
  match slots.policy.or S.policyDefault, slots.remarks.or S.remarksDefault with
  | none, _ => .error S.policyName
  | some _, none => .error S.remarksName
  | some policy, some remarks => .ok ⟨policy, remarks⟩

/-! ## Formats -/

/-- What a value is, as far as settings can tell: of an array only the length counts. -/
inductive Shape (Entry : Type) where
  | string (text : Text)
  | boolean (on : Bool)
  | table (entries : List Entry)
  | array (length : Nat)
  | other

/-- What holds nothing: an empty table or an empty array. -/
inductive Shape.Vacant {Entry : Type} : Shape Entry → Prop
  | table : Vacant (.table [])
  | array : Vacant (.array 0)

instance {Entry : Type} (s : Shape Entry) : Decidable s.Vacant :=
  match s with
  | .table [] => .isTrue .table
  | .array 0 => .isTrue .array
  | .table (_ :: _) | .array (_ + 1) | .string _ | .boolean _ | .other => .isFalse nofun

/-- **A format of documents**, with what it makes of settings in them. -/
structure Format where
  /-- A key and its value, at their place in a document. -/
  Entry : Type
  /-- What can be wrong with a document. -/
  Problem : Type
  key : Entry → Text
  shape : Entry → Shape Entry
  /-- The entries of the topmost table of a document, in the order of the document. -/
  entries : Text → Except Problem (List Entry)
  /-- The settings in a document. -/
  read : Schema → Text → Except Problem Settings
  /-- The settings that entries make, after those that filled some slots. -/
  visit : Schema → Slots → List Entry → Except Problem Settings
  /-- The policy that the value of an entry is. -/
  policy : Schema → Entry → Except Problem UnterminatedStrings
  /-- The boolean that the value of an entry is. -/
  boolean : Entry → Except Problem Bool
  /-- The variant that the value of an entry names, and what it gives to it, if anything. -/
  variant : Entry → Except Problem (Text × Option Entry)
  /-- What is given to a variant that takes nothing. -/
  unit : Option Entry → Except Problem Unit
  /-- The problem with an entry whose key is not in the schema. -/
  unknownField : Entry → Problem
  /-- The problem with a name that is missing. -/
  missingField : Text → Problem
  /-- The problem with an entry whose value names no policy. -/
  unknownVariant : Entry → Text → Problem
  /-- What a problem with a text says, as far as this is known. -/
  describe : Text → Problem → Option Text

namespace Format

variable (F : Format)

/-- **Documents are read in order**: their keys are distinct, and settings are read off their
entries from the first to the last. -/
structure DocumentOrder : Prop where
  nodup : ∀ {source es}, F.entries source = .ok es → (es.map F.key).Nodup
  read_eq : ∀ S source, F.read S source = do F.visit S {} (← F.entries source)

/-- **Each entry fills the slot of its key**, if nothing has filled it before, and the others come
after it.  A key that is not in the schema is a problem or passed over, as the schema says. -/
structure DerivedVisitor : Prop where
  visit_nil : ∀ S slots, F.visit S slots [] = (S.settings slots).mapError F.missingField
  visit_policy : ∀ {S e}, F.key e = S.policyName → ∀ remarks es,
    F.visit S ⟨none, remarks⟩ (e :: es) = do F.visit S ⟨some (← F.policy S e), remarks⟩ es
  visit_remarks : ∀ {S e}, F.key e ≠ S.policyName → F.key e = S.remarksName → ∀ policy es,
    F.visit S ⟨policy, none⟩ (e :: es) = do F.visit S ⟨policy, some (← F.boolean e)⟩ es
  visit_unknown : ∀ {S e}, F.key e ≠ S.policyName → F.key e ≠ S.remarksName → ∀ slots es,
    F.visit S slots (e :: es)
      = if S.deniesUnknown then .error (F.unknownField e) else F.visit S slots es

/-- **The forms of values.**  A policy is named by a string, or by the one key of a table, whose
value then holds nothing; a boolean is a boolean. -/
structure ValueForms : Prop where
  policy_eq : ∀ S e, F.policy S e = do
    let (name, content) ← F.variant e
    match S.policy? name with
    | some policy => do F.unit content; return policy
    | none => throw (F.unknownVariant e name)
  variant_string : ∀ {e name}, F.shape e = .string name → F.variant e = .ok (name, none)
  variant_table : ∀ {e content}, F.shape e = .table [content] →
    F.variant e = .ok (F.key content, some content)
  variant_other : ∀ {e}, (∀ name, F.shape e ≠ .string name) →
    (∀ content, F.shape e ≠ .table [content]) → ∃ problem, F.variant e = .error problem
  unit_none : F.unit none = .ok ()
  unit_vacant : ∀ {e}, (F.shape e).Vacant → F.unit (some e) = .ok ()
  unit_filled : ∀ {e}, ¬ (F.shape e).Vacant → ∃ problem, F.unit (some e) = .error problem
  boolean_boolean : ∀ {e on}, F.shape e = .boolean on → F.boolean e = .ok on
  boolean_other : ∀ {e}, (∀ on, F.shape e ≠ .boolean on) → ∃ problem, F.boolean e = .error problem

end Format

/-! ## Settings from documents -/

/-- Why there are no settings. -/
inductive LoadError (F : Format) where
  /-- A file cannot be read as text. -/
  | unreadable (path reason : Text)
  /-- A text holds no settings. -/
  | invalid (source : Text) (problem : F.Problem)

/-- What is said about it, as far as this is known. -/
def LoadError.message? {F : Format} : LoadError F → Option Text
  | .unreadable path reason =>
    some ("failed to read configuration ".toList ++ path ++ ": ".toList ++ reason)
  | .invalid source problem =>
    (F.describe source problem).map ("failed to parse configuration: ".toList ++ ·)

/-- The settings in a document. -/
def ofDocument (F : Format) (source : Text) : Except (LoadError F) Settings :=
  (F.read schema source).mapError (.invalid source)

theorem ofDocument_eq_ok_iff {F : Format} {source : Text} {s : Settings} :
    ofDocument F source = .ok s ↔ F.read schema source = .ok s := by
  rw [ofDocument]
  cases F.read schema source with
  | error problem => exact ⟨nofun, nofun⟩
  | ok s' => exact ⟨fun h => Except.ok.inj h ▸ rfl, fun h => Except.ok.inj h ▸ rfl⟩

theorem ofDocument_eq_error_iff {F : Format} {source : Text} {error : LoadError F} :
    ofDocument F source = .error error ↔
      ∃ problem, error = .invalid source problem ∧ F.read schema source = .error problem := by
  rw [ofDocument]
  cases F.read schema source with
  | error problem =>
    constructor
    · intro h
      exact ⟨problem, (Except.error.inj h).symm, rfl⟩
    · rintro ⟨problem', rfl, h⟩
      obtain rfl := Except.error.inj h
      rfl
  | ok s => exact ⟨nofun, nofun⟩

end Settings

end BasicTokens
