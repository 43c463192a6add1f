import BasicTokens.Settings.Document

/-!
# Proofs/Choices — a document of settings is taken whole or refused

    unterminated_strings = "reject"    a choice      case_insensitive_remarks = 1    an offence
    [unterminated_strings.reject]      the same      nested_comments = true          an offence

Whatever the format, an entry of a document either chooses a setting or offends
(`Format.chooses_or_offends`), and visiting it fills the slot of what it chooses or ends with its
offence (`Format.visit_of_chooses`, `Format.visit_of_offends`).  So a document makes settings if all
its entries choose, and these are the standard ones with what is chosen (`Overrides`), in whatever
order; or else it has a first entry that offends, and its offence is the problem, whatever follows
(`ofDocument_taken`).
-/

namespace BasicTokens

namespace Settings

/-- The settings in the slots, standard where nothing was set. -/
def Slots.settings (slots : Slots) : Settings where
  unterminatedStrings := slots.policy.getD standard.unterminatedStrings
  caseInsensitiveRemarks := slots.remarks.getD standard.caseInsensitiveRemarks

/-- No setting has to be there. -/
theorem settings_schema (slots : Slots) : schema.settings slots = .ok slots.settings := by
  obtain ⟨_ | policy, _ | remarks⟩ := slots <;> rfl

/-! ## Choices -/

/-- What an entry of a document can decide. -/
inductive Choice where
  | unterminatedStrings (policy : UnterminatedStrings)
  | caseInsensitiveRemarks (on : Bool)

namespace Choice

/-- The name of the setting. -/
def name : Choice → Text
  | unterminatedStrings _ => unterminatedStringsName
  | caseInsensitiveRemarks _ => caseInsensitiveRemarksName

/-- The settings with what is chosen. -/
def applyTo (s : Settings) : Choice → Settings
  | unterminatedStrings policy => { s with unterminatedStrings := policy }
  | caseInsensitiveRemarks on => { s with caseInsensitiveRemarks := on }

/-- The slots with what is chosen. -/
def fill (slots : Slots) : Choice → Slots
  | unterminatedStrings policy => { slots with policy := some policy }
  | caseInsensitiveRemarks on => { slots with remarks := some on }

/-- Settings have what is chosen. -/
def HoldsIn (s : Settings) : Choice → Prop
  | unterminatedStrings policy => s.unterminatedStrings = policy
  | caseInsensitiveRemarks on => s.caseInsensitiveRemarks = on

variable {c c' : Choice} {s : Settings}

theorem settings_fill (c : Choice) (slots : Slots) :
    (c.fill slots).settings = c.applyTo slots.settings := by
  cases c <;> rfl

theorem holdsIn_applyTo (c : Choice) (s : Settings) : c.HoldsIn (c.applyTo s) := by
  cases c <;> rfl

theorem caseInsensitiveRemarksName_ne : caseInsensitiveRemarksName ≠ unterminatedStringsName := by
  decide

/-- A choice of one setting leaves the other. -/
theorem holdsIn_applyTo_iff (h : c.name ≠ c'.name) (s : Settings) :
    c.HoldsIn (c'.applyTo s) ↔ c.HoldsIn s := by
  cases c <;> cases c'
  · exact absurd rfl h
  · exact Iff.rfl
  · exact Iff.rfl
  · exact absurd rfl h

/-- Settings have one choice of each name. -/
theorem eq_of_holdsIn (h : c.HoldsIn s) (h' : c'.HoldsIn s) (hname : c.name = c'.name) :
    c = c' := by
  cases c <;> cases c'
  · exact congrArg _ (h.symm.trans h')
  · exact absurd hname.symm caseInsensitiveRemarksName_ne
  · exact absurd hname caseInsensitiveRemarksName_ne
  · exact congrArg _ (h.symm.trans h')

end Choice

/-- Settings are known by what holds in them. -/
theorem eq_of_forall_holdsIn {s s' : Settings} (h : ∀ c : Choice, c.HoldsIn s → c.HoldsIn s') :
    s' = s := by
  have hpolicy : s'.unterminatedStrings = s.unterminatedStrings := h (.unterminatedStrings _) rfl
  have hremarks : s'.caseInsensitiveRemarks = s.caseInsensitiveRemarks :=
    h (.caseInsensitiveRemarks _) rfl
  cases s
  cases s'
  exact (Settings.mk.injEq ..).mpr ⟨hpolicy, hremarks⟩

/-- The slot of a name is free, if there is one. -/
structure Slots.Free (slots : Slots) (name : Text) : Prop where
  policy : name = unterminatedStringsName → slots.policy = none
  remarks : name = caseInsensitiveRemarksName → slots.remarks = none

theorem Slots.Free.empty (name : Text) : ({} : Slots).Free name := ⟨fun _ => rfl, fun _ => rfl⟩

/-- Filling a slot leaves the other free. -/
theorem Slots.Free.fill {slots : Slots} {name : Text} {c : Choice} (h : slots.Free name)
    (hne : name ≠ c.name) : (c.fill slots).Free name := by
  cases c with
  | unterminatedStrings => exact ⟨fun hname => absurd hname hne, h.remarks⟩
  | caseInsensitiveRemarks => exact ⟨h.policy, fun hname => absurd hname hne⟩

namespace Format

variable {F : Format}

/-- **The values that say what is chosen**: the name of a policy, a table that gives this name alone
nothing, and a boolean. -/
inductive Says (F : Format) : Shape F.Entry → Choice → Prop
  | name (policy : UnterminatedStrings) : Says F (.string policy.name) (.unterminatedStrings policy)
  | table {content : F.Entry} (policy : UnterminatedStrings) (named : F.key content = policy.name)
      (vacant : (F.shape content).Vacant) : Says F (.table [content]) (.unterminatedStrings policy)
  | boolean (on : Bool) : Says F (.boolean on) (.caseInsensitiveRemarks on)

/-- **An entry chooses a setting**: it has its name, and says what is chosen. -/
structure Chooses (F : Format) (e : F.Entry) (c : Choice) : Prop where
  name_eq : F.key e = c.name
  meaning : F.Says (F.shape e) c

/-- **An entry offends**: no setting has its name, or its value says nothing of the setting, and
reading the value as one fails. -/
inductive Offends (F : Format) (e : F.Entry) : F.Problem → Prop
  | unknownField (unknown : ∀ c : Choice, F.key e ≠ c.name) : Offends F e (F.unknownField e)
  | unfitPolicy {problem : F.Problem} (named : F.key e = unterminatedStringsName)
      (unfit : ∀ policy, ¬ F.Says (F.shape e) (.unterminatedStrings policy))
      (fails : F.policy schema e = .error problem) : Offends F e problem
  | notBoolean {problem : F.Problem} (named : F.key e = caseInsensitiveRemarksName)
      (unfit : ∀ on, ¬ F.Says (F.shape e) (.caseInsensitiveRemarks on))
      (fails : F.boolean e = .error problem) : Offends F e problem

/-- The first entry that offends, and its offence. -/
def FirstOffence (F : Format) (es : List F.Entry) (problem : F.Problem) : Prop :=
  ∃ before e after, es = before ++ e :: after ∧ (∀ e' ∈ before, ∃ c, F.Chooses e' c) ∧
    F.Offends e problem

/-- **Settings with what the entries of a document choose**, and as they were where no entry has the
name of the setting. -/
structure Overrides (F : Format) (base : Settings) (es : List F.Entry) (s : Settings) : Prop where
  chosen : ∀ e ∈ es, ∀ c, F.Chooses e c → c.HoldsIn s
  kept : ∀ c : Choice, c.name ∉ es.map F.key → (c.HoldsIn s ↔ c.HoldsIn base)

/-- The same choices, in whatever order. -/
def SameChoices (F : Format) (es es' : List F.Entry) : Prop :=
  ∀ c, (∃ e ∈ es, F.Chooses e c) ↔ ∃ e ∈ es', F.Chooses e c

variable {e : F.Entry} {es es' before after : List F.Entry} {c c' : Choice} {s s' base : Settings}
  {slots : Slots} {problem : F.Problem} {policy : UnterminatedStrings}

/-- A value says one thing. -/
theorem Says.unique {shape : Shape F.Entry} (h : F.Says shape c) (h' : F.Says shape c') :
    c = c' := by
  cases h with
  | name policy =>
    generalize hname : policy.name = name at h'
    cases h' with
    | name policy' =>
      have hsame : some policy = some policy' := by
        rw [← policy.ofName?_name, ← policy'.ofName?_name, hname]
      exact congrArg _ (Option.some.inj hsame)
  | table policy named =>
    cases h' with
    | table policy' named' =>
      have hsame : some policy = some policy' := by
        rw [← policy.ofName?_name, ← policy'.ofName?_name, ← named, ← named']
      exact congrArg _ (Option.some.inj hsame)
  | boolean on =>
    cases h'
    rfl

/-! ## One value -/

section Values

variable (forms : F.ValueForms)
include forms

/-- A variant is read as a policy if it has the name of one and is given nothing. -/
theorem policy_of_variant {name : Text} {content : Option F.Entry}
    (h : F.variant e = .ok (name, content)) :
    F.policy schema e = match UnterminatedStrings.ofName? name with
      | some policy => (F.unit content).map fun _ => policy
      | none => .error (F.unknownVariant e name) := by
  rw [forms.policy_eq, h]
  change (match UnterminatedStrings.ofName? name with
    | some policy => do F.unit content; return policy
    | none => throw (F.unknownVariant e name)) = _
  cases UnterminatedStrings.ofName? name with
  | none => rfl
  | some policy => cases F.unit content <;> rfl

theorem policy_of_says (h : F.Says (F.shape e) (.unterminatedStrings policy)) :
    F.policy schema e = .ok policy := by
  generalize hshape : F.shape e = shape at h
  cases h with
  | name =>
    rw [policy_of_variant forms (forms.variant_string hshape), policy.ofName?_name, forms.unit_none]
    rfl
  | table _ named vacant =>
    rw [policy_of_variant forms (forms.variant_table hshape), named, policy.ofName?_name,
      forms.unit_vacant vacant]
    rfl

/-- A value that says nothing of the policy is not read as one. -/
theorem policy_of_unfit (h : ∀ policy, ¬ F.Says (F.shape e) (.unterminatedStrings policy)) :
    ∃ problem, F.policy schema e = .error problem := by
  by_cases hstring : ∃ name, F.shape e = .string name
  · obtain ⟨name, hshape⟩ := hstring
    rw [policy_of_variant forms (forms.variant_string hshape)]
    cases hname : UnterminatedStrings.ofName? name with
    | none => exact ⟨_, rfl⟩
    | some policy =>
      obtain rfl := UnterminatedStrings.ofName?_eq_some_iff.mp hname
      exact absurd (hshape ▸ .name policy) (h policy)
  by_cases htable : ∃ content, F.shape e = .table [content]
  · obtain ⟨content, hshape⟩ := htable
    rw [policy_of_variant forms (forms.variant_table hshape)]
    cases hname : UnterminatedStrings.ofName? (F.key content) with
    | none => exact ⟨_, rfl⟩
    | some policy =>
      have named := UnterminatedStrings.ofName?_eq_some_iff.mp hname
      have hfilled : ¬ (F.shape content).Vacant := fun vacant =>
        h policy (hshape ▸ .table policy named vacant)
      obtain ⟨problem, hproblem⟩ := forms.unit_filled hfilled
      rw [hproblem]
      exact ⟨problem, rfl⟩
  · obtain ⟨problem, hproblem⟩ :=
      forms.variant_other (not_exists.mp hstring) (not_exists.mp htable)
    rw [forms.policy_eq, hproblem]
    exact ⟨problem, rfl⟩

theorem boolean_of_says {on : Bool} (h : F.Says (F.shape e) (.caseInsensitiveRemarks on)) :
    F.boolean e = .ok on := by
  generalize hshape : F.shape e = shape at h
  cases h
  exact forms.boolean_boolean hshape

theorem boolean_of_unfit (h : ∀ on, ¬ F.Says (F.shape e) (.caseInsensitiveRemarks on)) :
    ∃ problem, F.boolean e = .error problem :=
  forms.boolean_other fun on hshape => h on (hshape ▸ .boolean on)

/-- **An entry chooses or offends.** -/
theorem chooses_or_offends (e : F.Entry) :
    (∃ c, F.Chooses e c) ∨ ∃ problem, F.Offends e problem := by
  by_cases hpolicy : F.key e = unterminatedStringsName
  · by_cases hsays : ∃ policy, F.Says (F.shape e) (.unterminatedStrings policy)
    · obtain ⟨policy, hsays⟩ := hsays
      exact Or.inl ⟨.unterminatedStrings policy, hpolicy, hsays⟩
    · obtain ⟨problem, hproblem⟩ := policy_of_unfit forms (not_exists.mp hsays)
      exact Or.inr ⟨problem, .unfitPolicy hpolicy (not_exists.mp hsays) hproblem⟩
  by_cases hremarks : F.key e = caseInsensitiveRemarksName
  · by_cases hsays : ∃ on, F.Says (F.shape e) (.caseInsensitiveRemarks on)
    · obtain ⟨on, hsays⟩ := hsays
      exact Or.inl ⟨.caseInsensitiveRemarks on, hremarks, hsays⟩
    · obtain ⟨problem, hproblem⟩ := boolean_of_unfit forms (not_exists.mp hsays)
      exact Or.inr ⟨problem, .notBoolean hremarks (not_exists.mp hsays) hproblem⟩
  · refine Or.inr ⟨_, .unknownField fun c => ?_⟩
    cases c with
    | unterminatedStrings => exact hpolicy
    | caseInsensitiveRemarks => exact hremarks

/-- Entries all choose, or one is the first that offends. -/
theorem forall_chooses_or_firstOffence (es : List F.Entry) :
    (∀ e ∈ es, ∃ c, F.Chooses e c) ∨ ∃ problem, F.FirstOffence es problem := by
  induction es with
  | nil => exact Or.inl fun e he => absurd he List.not_mem_nil
  | cons e es ih =>
    rcases chooses_or_offends forms e with he | ⟨problem, he⟩
    · refine ih.imp (fun hes => List.forall_mem_cons.mpr ⟨he, hes⟩) ?_
      rintro ⟨problem, before, e', after, rfl, hbefore, he'⟩
      exact ⟨problem, e :: before, e', after, rfl, List.forall_mem_cons.mpr ⟨he, hbefore⟩, he'⟩
    · exact Or.inr ⟨problem, [], e, es, rfl, fun e' he' => absurd he' List.not_mem_nil, he⟩

end Values

/-! ## One entry -/

section Visits

variable (visitor : F.DerivedVisitor)
include visitor

/-- **An entry that chooses fills its slot.** -/
theorem visit_of_chooses (forms : F.ValueForms) (hc : F.Chooses e c) (hfree : slots.Free (F.key e))
    (es : List F.Entry) : F.visit schema slots (e :: es) = F.visit schema (c.fill slots) es := by
  obtain ⟨hname, hsays⟩ := hc
  obtain ⟨policy?, remarks?⟩ := slots
  cases c with
  | unterminatedStrings policy =>
    obtain rfl : policy? = none := hfree.policy hname
    rw [visitor.visit_policy hname, policy_of_says forms hsays]
    rfl
  | caseInsensitiveRemarks on =>
    obtain rfl : remarks? = none := hfree.remarks hname
    rw [visitor.visit_remarks (hname ▸ Choice.caseInsensitiveRemarksName_ne) hname,
      boolean_of_says forms hsays]
    rfl

/-- **An entry that offends ends the visit**, whatever follows. -/
theorem visit_of_offends (he : F.Offends e problem) (hfree : slots.Free (F.key e))
    (after : List F.Entry) : F.visit schema slots (e :: after) = .error problem := by
  obtain ⟨policy?, remarks?⟩ := slots
  cases he with
  | unknownField unknown =>
    exact visitor.visit_unknown (unknown (.unterminatedStrings .reject))
      (unknown (.caseInsensitiveRemarks true)) _ _
  | unfitPolicy named _ fails =>
    obtain rfl : policy? = none := hfree.policy named
    rw [visitor.visit_policy named, fails]
    rfl
  | notBoolean named _ fails =>
    obtain rfl : remarks? = none := hfree.remarks named
    rw [visitor.visit_remarks (named ▸ Choice.caseInsensitiveRemarksName_ne) named, fails]
    rfl

end Visits

/-! ## Settings with what is chosen -/

/-- An entry chooses one thing. -/
theorem Chooses.unique (h : F.Chooses e c) (h' : F.Chooses e c') : c = c' :=
  h.meaning.unique h'.meaning

/-- The slot that an entry fills is not the slot of an entry with another key. -/
theorem Chooses.free_fill (hc : F.Chooses e c) (he : F.key e ∉ es.map F.key)
    (hfree : ∀ e' ∈ es, slots.Free (F.key e')) :
    ∀ e' ∈ es, (c.fill slots).Free (F.key e') := fun e' he' =>
  (hfree e' he').fill fun hname => he (List.mem_map.mpr ⟨e', he', hname.trans hc.name_eq.symm⟩)

/-- An entry more. -/
theorem Overrides.cons (hc : F.Chooses e c) (he : F.key e ∉ es.map F.key)
    (h : F.Overrides (c.applyTo base) es s) : F.Overrides base (e :: es) s where
  chosen := List.forall_mem_cons.mpr ⟨fun c' hc' => by
    obtain rfl := hc.unique hc'
    rw [h.kept c (hc.name_eq ▸ he)]
    exact c.holdsIn_applyTo base, h.chosen⟩
  kept := fun c' hc' => by
    obtain ⟨hne, hrest⟩ := not_or.mp (mt List.mem_cons.mpr hc')
    rw [h.kept c' hrest, Choice.holdsIn_applyTo_iff (hc.name_eq ▸ hne)]

/-- Entries that choose the same have the same keys. -/
theorem SameChoices.keys_subset (h : F.SameChoices es es') (hes : ∀ e ∈ es, ∃ c, F.Chooses e c) :
    es.map F.key ⊆ es'.map F.key := fun name hname => by
  obtain ⟨e, he, rfl⟩ := List.mem_map.mp hname
  obtain ⟨c, hc⟩ := hes e he
  obtain ⟨e', he', hc'⟩ := (h c).mp ⟨e, he, hc⟩
  exact List.mem_map.mpr ⟨e', he', hc'.name_eq.trans hc.name_eq.symm⟩

/-- **Entries with the same choices make the same settings.** -/
theorem Overrides.unique (h : F.Overrides base es s) (h' : F.Overrides base es' s')
    (hsame : F.SameChoices es es') (hes : ∀ e ∈ es, ∃ c, F.Chooses e c)
    (hes' : ∀ e ∈ es', ∃ c, F.Chooses e c) : s' = s := by
  refine eq_of_forall_holdsIn fun c hc => ?_
  by_cases hname : c.name ∈ es.map F.key
  · obtain ⟨e, he, hename⟩ := List.mem_map.mp hname
    obtain ⟨c', hc'⟩ := hes e he
    obtain rfl : c' = c :=
      Choice.eq_of_holdsIn (h.chosen e he c' hc') hc (hc'.name_eq.symm.trans hename)
    obtain ⟨e', he', hchooses⟩ := (hsame c').mp ⟨e, he, hc'⟩
    exact h'.chosen e' he' c' hchooses
  · have hback : F.SameChoices es' es := fun c => (hsame c).symm
    have hname' : c.name ∉ es'.map F.key := fun hmem => hname (hback.keys_subset hes' hmem)
    exact (h'.kept c hname').mpr ((h.kept c hname).mp hc)

/-! ## All entries -/

/-- Reading a document is visiting its entries. -/
theorem DocumentOrder.read_of_entries (order : F.DocumentOrder) {source : Text}
    (h : F.entries source = .ok es) : F.read schema source = F.visit schema {} es := by
  rw [order.read_eq, h]
  rfl

section Documents

variable (visitor : F.DerivedVisitor) (forms : F.ValueForms)
include visitor forms

/-- **Entries that all choose override what was set.** -/
theorem exists_overrides (hes : ∀ e ∈ es, ∃ c, F.Chooses e c) (hnodup : (es.map F.key).Nodup) :
    ∀ slots : Slots, (∀ e ∈ es, slots.Free (F.key e)) →
      ∃ s, F.visit schema slots es = .ok s ∧ F.Overrides slots.settings es s := by
  induction es with
  | nil =>
    refine fun slots _ => ⟨slots.settings, ?_, fun e he => absurd he List.not_mem_nil,
      fun c _ => Iff.rfl⟩
    rw [visitor.visit_nil, settings_schema]
    rfl
  | cons e es ih =>
    intro slots hfree
    obtain ⟨⟨c, hc⟩, hes⟩ := List.forall_mem_cons.mp hes
    obtain ⟨he, hnodup⟩ := List.nodup_cons.mp hnodup
    obtain ⟨hfreeHead, hfree⟩ := List.forall_mem_cons.mp hfree
    obtain ⟨s, hvisit, hs⟩ := ih hes hnodup (c.fill slots) (hc.free_fill he hfree)
    rw [c.settings_fill] at hs
    exact ⟨s, (visit_of_chooses visitor forms hc hfreeHead es).trans hvisit, hs.cons hc he⟩

/-- **The first entry that offends is the problem**, whatever follows. -/
theorem visit_of_firstOffence (hbefore : ∀ e' ∈ before, ∃ c, F.Chooses e' c)
    (he : F.Offends e problem) (after : List F.Entry) (hnodup : ((before ++ [e]).map F.key).Nodup) :
    ∀ slots : Slots, (∀ e' ∈ before ++ [e], slots.Free (F.key e')) →
      F.visit schema slots (before ++ e :: after) = .error problem := by
  induction before with
  | nil => exact fun slots hfree => visit_of_offends visitor he (hfree e (by simp)) after
  | cons e' before ih =>
    intro slots hfree
    obtain ⟨⟨c, hc⟩, hbefore⟩ := List.forall_mem_cons.mp hbefore
    obtain ⟨he', hnodup⟩ := List.nodup_cons.mp hnodup
    obtain ⟨hfreeHead, hfree⟩ := List.forall_mem_cons.mp hfree
    exact (visit_of_chooses visitor forms hc hfreeHead _).trans
      (ih hbefore hnodup _ (hc.free_fill he' hfree))

/-- The first offence of entries with distinct keys is the problem. -/
theorem FirstOffence.visit_eq (h : F.FirstOffence es problem) (hnodup : (es.map F.key).Nodup) :
    F.visit schema {} es = .error problem := by
  obtain ⟨before, e, after, rfl, hbefore, he⟩ := h
  refine visit_of_firstOffence visitor forms hbefore he after ?_ {} fun _ _ => .empty _
  rw [List.append_cons, List.map_append] at hnodup
  exact (List.nodup_append.mp hnodup).1

/-- **Settings, if all entries choose.** -/
theorem visit_eq_ok_iff (hnodup : (es.map F.key).Nodup) :
    F.visit schema {} es = .ok s ↔ (∀ e ∈ es, ∃ c, F.Chooses e c) ∧ F.Overrides standard es s := by
  constructor
  · intro h
    rcases forall_chooses_or_firstOffence forms es with hes | ⟨problem, hproblem⟩
    · obtain ⟨s', hvisit, hs'⟩ :=
        exists_overrides visitor forms hes hnodup {} fun _ _ => .empty _
      exact ⟨hes, Except.ok.inj (h.symm.trans hvisit) ▸ hs'⟩
    · exact absurd (h.symm.trans (hproblem.visit_eq visitor forms hnodup)) (by simp)
  · rintro ⟨hes, hs⟩
    obtain ⟨s', hvisit, hs'⟩ := exists_overrides visitor forms hes hnodup {} fun _ _ => .empty _
    rw [hs'.unique hs (fun c => Iff.rfl) hes hes]
    exact hvisit

/-- **…and otherwise the first offence.** -/
theorem visit_eq_error_iff (hnodup : (es.map F.key).Nodup) :
    F.visit schema {} es = .error problem ↔ F.FirstOffence es problem := by
  refine ⟨fun h => ?_, fun h => h.visit_eq visitor forms hnodup⟩
  rcases forall_chooses_or_firstOffence forms es with hes | ⟨problem', hproblem⟩
  · obtain ⟨s, hvisit, -⟩ := exists_overrides visitor forms hes hnodup {} fun _ _ => .empty _
    exact absurd (h.symm.trans hvisit) (by simp)
  · exact Except.error.inj (h.symm.trans (hproblem.visit_eq visitor forms hnodup)) ▸ hproblem

/-- The order of entries does not matter to what they make. -/
theorem visit_perm (hnodup : (es.map F.key).Nodup) (hperm : es'.Perm es)
    (hes : ∀ e ∈ es, ∃ c, F.Chooses e c) (hs : F.Overrides standard es s) :
    F.visit schema {} es' = .ok s := by
  refine (visit_eq_ok_iff visitor forms ((hperm.map _).nodup_iff.mpr hnodup)).mpr
    ⟨fun e he => hes e (hperm.mem_iff.mp he), ?_, ?_⟩
  · exact fun e he => hs.chosen e (hperm.mem_iff.mp he)
  · exact fun c hc => hs.kept c fun hmem => hc ((hperm.map _).mem_iff.mpr hmem)

/-- A document makes settings if its entries do. -/
theorem DocumentOrder.ofDocument_eq_ok_iff (order : F.DocumentOrder) {source : Text}
    (h : F.entries source = .ok es) :
    ofDocument F source = .ok s ↔
      (∀ e ∈ es, ∃ c, F.Chooses e c) ∧ F.Overrides standard es s := by
  rw [Settings.ofDocument_eq_ok_iff, order.read_of_entries h,
    visit_eq_ok_iff visitor forms (order.nodup h)]

end Documents

end Format

/-- **A document of settings is taken whole or refused**, in any format that keeps the document's
order, fills slots and has values of these forms.  It makes settings if and only if each of its
entries chooses one, and they are the standard settings with what is chosen, for any order of the
entries, and the same for any document with the same choices.  Otherwise it is refused for its first
entry that offends, whatever follows that. -/
theorem ofDocument_taken (F : Format) (order : F.DocumentOrder) (visitor : F.DerivedVisitor)
    (forms : F.ValueForms) (source : Text) (es : List F.Entry) (h : F.entries source = .ok es) :
    ((∃ s, ofDocument F source = .ok s) ↔ ∀ e ∈ es, ∃ c, F.Chooses e c) ∧
    (∀ s, ofDocument F source = .ok s → F.Overrides standard es s ∧
      (∀ es', es'.Perm es → F.visit schema {} es' = .ok s) ∧
      ∀ source' es', F.entries source' = .ok es' → F.SameChoices es es' →
        (∀ e ∈ es', ∃ c, F.Chooses e c) → ofDocument F source' = .ok s) ∧
    (∀ error, ofDocument F source = .error error ↔
      ∃ problem, error = .invalid source problem ∧ F.FirstOffence es problem) ∧
    ∀ before e after problem, es = before ++ e :: after →
      (∀ e' ∈ before, ∃ c, F.Chooses e' c) → F.Offends e problem →
        ∀ after', F.visit schema {} (before ++ e :: after') = .error problem := by
  have hnodup := order.nodup h
  have hok : ∀ {s}, ofDocument F source = .ok s ↔ _ := order.ofDocument_eq_ok_iff visitor forms h
  refine ⟨⟨?_, fun hes => ?_⟩, fun s hs => ?_, fun error => ?_, ?_⟩
  · rintro ⟨s, hs⟩
    exact (hok.mp hs).1
  · obtain ⟨s, -, hover⟩ := Format.exists_overrides visitor forms hes hnodup {} fun _ _ => .empty _
    exact ⟨s, hok.mpr ⟨hes, hover⟩⟩
  · obtain ⟨hes, hover⟩ := hok.mp hs
    refine ⟨hover, fun es' hperm => Format.visit_perm visitor forms hnodup hperm hes hover, ?_⟩
    intro source' es' h' hsame hes'
    obtain ⟨s', -, hover'⟩ :=
      Format.exists_overrides visitor forms hes' (order.nodup h') {} fun _ _ => .empty _
    obtain rfl : s' = s := hover.unique hover' hsame hes hes'
    exact (order.ofDocument_eq_ok_iff visitor forms h').mpr ⟨hes', hover'⟩
  · rw [ofDocument_eq_error_iff, order.read_of_entries h]
    exact exists_congr fun problem =>
      and_congr_right fun _ => Format.visit_eq_error_iff visitor forms hnodup
  · rintro before e after problem rfl hbefore he after'
    rw [List.append_cons, List.map_append] at hnodup
    exact Format.visit_of_firstOffence visitor forms hbefore he after'
      (List.nodup_append.mp hnodup).1 {} fun _ _ => .empty _

/-- A section is a table that gives the name of a policy an empty table. -/
theorem ofDocument_taken_section :
    let source := "case_insensitive_remarks = true\n[unterminated_strings.reject]\n".toList
    let remarks : Document.Entry :=
      ⟨⟨caseInsensitiveRemarksName, ⟨0, 24, 1, 1⟩⟩, some ⟨27, 31, 1, 28⟩, .boolean true⟩
    let policy : Document.Entry :=
      ⟨⟨unterminatedStringsName, ⟨33, 53, 2, 2⟩⟩, none, .table .implied
        [⟨⟨"reject".toList, ⟨54, 60, 2, 23⟩⟩, some ⟨32, 61, 2, 1⟩, .table .headed []⟩]⟩
    toml.entries source = .ok [remarks, policy] ∧ ofDocument toml source = .ok ⟨.reject, true⟩ ∧
      toml.visit schema {} [policy, remarks] = .ok ⟨.reject, true⟩ := by
  intro source remarks policy
  have htable : Toml.Table.parse?
      "case_insensitive_remarks = true\n[unterminated_strings.reject]\n".toList
        = some [remarks, policy] := rfl
  have hentries : toml.entries source = .ok [remarks, policy] := entries_toml htable
  have hremarks : toml.Chooses remarks (.caseInsensitiveRemarks true) := ⟨rfl, .boolean true⟩
  have hpolicy : toml.Chooses policy (.unterminatedStrings .reject) :=
    ⟨rfl, .table .reject rfl .table⟩
  obtain ⟨hok, htaken, -, -⟩ := ofDocument_taken toml toml_documentOrder toml_derivedVisitor
    toml_valueForms source [remarks, policy] hentries
  obtain ⟨s, hs⟩ := hok.mpr (List.forall_mem_cons.mpr
    ⟨⟨_, hremarks⟩, List.forall_mem_singleton.mpr ⟨_, hpolicy⟩⟩)
  obtain ⟨hoverrides, hperm, -⟩ := htaken s hs
  have hreject : s.unterminatedStrings = .reject :=
    hoverrides.chosen policy (List.mem_cons_of_mem _ List.mem_cons_self) _ hpolicy
  have hany : s.caseInsensitiveRemarks = true :=
    hoverrides.chosen remarks List.mem_cons_self _ hremarks
  obtain rfl : s = ⟨.reject, true⟩ := eq_of_forall_holdsIn fun c hc => by
    cases c
    · exact hreject.trans hc
    · exact hany.trans hc
  exact ⟨hentries, hs, hperm _ (.swap ..)⟩

/-- The first offence counts: an unknown key, and not the policy after it that is none. -/
example : ofDocument toml "a = ''\nunterminated_strings = []".toList
    = .error (.invalid "a = ''\nunterminated_strings = []".toList
        (.unknownField ['a'] ⟨0, 1, 1, 1⟩)) := rfl

/-- **A policy may hold an empty array.**  So it is not so that a document makes settings only if
its policy is a name, or a table that gives a name an empty table, whatever the format. -/
theorem not_ofDocument_iff_of_empty_array :
    ¬ ∀ F : Format, F.DocumentOrder → F.DerivedVisitor → F.ValueForms →
      ∀ (source : Text) (es : List F.Entry), F.entries source = .ok es →
        ((∃ s, ofDocument F source = .ok s) ↔ ∀ e ∈ es,
          (F.key e = unterminatedStringsName ∧ ∃ policy : UnterminatedStrings,
            F.shape e = .string policy.name ∨ ∃ content, F.shape e = .table [content] ∧
              F.key content = policy.name ∧ F.shape content = .table []) ∨
          (F.key e = caseInsensitiveRemarksName ∧ ∃ on, F.shape e = .boolean on)) := by
  intro h
  let content : Document.Entry :=
    ⟨⟨"reject".toList, ⟨25, 31, 1, 26⟩⟩, some ⟨34, 36, 1, 35⟩, .array []⟩
  let policy : Document.Entry :=
    ⟨⟨unterminatedStringsName, ⟨0, 20, 1, 1⟩⟩, some ⟨23, 38, 1, 24⟩, .table .inline [content]⟩
  let source : Text := "unterminated_strings = \x7b reject = [] \x7d".toList
  have htable : Toml.Table.parse? "unterminated_strings = \x7b reject = [] \x7d".toList
      = some [policy] := rfl
  have hentries : toml.entries source = .ok [policy] := entries_toml htable
  have hread : ofDocument toml source = .ok ⟨.reject, false⟩ := by
    rw [ofDocument_eq_ok_iff, toml_documentOrder.read_of_entries hentries]
    rfl
  rcases (h toml toml_documentOrder toml_derivedVisitor toml_valueForms _ _ hentries).mp ⟨_, hread⟩
    policy List.mem_cons_self with ⟨-, _, hname | ⟨_, htable, -, hempty⟩⟩ | ⟨-, _, hboolean⟩
  · nomatch hname
  · obtain rfl : content = _ := (List.cons.inj (Shape.table.inj htable)).1
    nomatch hempty
  · nomatch hboolean

end Settings

end BasicTokens
