import BasicTokens.Toml.Value

/-!
# Toml/Table — how statements build a document

A statement assigns a value to a key or opens a section with a header.  A section's table is filled
by the assignments up to the next header.  No name is given twice, a table that has its own header
or stands in braces is not extended by dotted keys, and a table gets at most one header.  So the
names in a document are distinct (`nodup_ofStatements?`).
-/

namespace BasicTokens

namespace Toml

/-! ## Statements -/

/-- A key, perhaps reached through others, and the value it is given. -/
structure Assignment where
  path : List Key
  key : Key
  value : Value
  span : Span

/-- What opens a section: the key of its table, perhaps reached through others. -/
structure Header where
  path : List Key
  key : Key
  /-- Whether the section is one more element of an array of tables. -/
  isElement : Bool
  span : Span

/-- One statement of a document. -/
inductive Statement where
  | assign (a : Assignment)
  | header (h : Header)

/-- A header and the assignments below it. -/
structure Section where
  header : Header
  body : List Assignment

/-- The span of a section: its header and all up to the last value assigned in it. -/
def Section.span (s : Section) : Span :=
  { s.header.span with stop := (s.body.getLast?.map (·.span.stop)).getD s.header.span.stop }

/-- The assignments before the first header, and the sections after them. -/
def Section.group : List Statement → List Assignment × List Section
  | [] => ([], [])
  | .assign a :: statements =>
    let (body, sections) := group statements
    (a :: body, sections)
  | .header header :: statements =>
    let (body, sections) := group statements
    ([], ⟨header, body⟩ :: sections)

/-- Whether a path that makes tables of form `made` on its way may lead through a table of this
form: dotted keys enter only what was implied or made by dotted keys, headers also what has one. -/
def Form.admits (made : Form) : Form → Bool
  | .implied => true
  | .dotted => true
  | .headed => made == .implied
  | .inline => false

namespace Table

/-! ## Building -/

/-- Applies a change to the table that a path leads to.  Missing tables on the way are made in the
form `made`; a path through an array of tables leads through its last element. -/
def within? (made : Form) (change : Form → Table → Option Table) :
    List Key → Form → Table → Option Table
  | [], form, t => change form t
  | key :: path, _, t =>
    match t.find? key.name with
    | none => do
      let inner ← within? made change path made []
      return t ++ [⟨key, none, .table made inner⟩]
    | some ⟨_, span, .table form inner⟩ =>
      if made.admits form then do
        let inner ← within? made change path form inner
        return t.update key.name span (.table form inner)
      else none
    | some ⟨_, span, .tables elements⟩ => do
      let (place, inner) ← elements.getLast?
      let inner ← within? made change path .headed inner
      return t.update key.name span (.tables (elements.dropLast ++ [(place, inner)]))
    | some _ => none

/-- A table with one more entry, if the name is new. -/
def add? (t : Table) (e : Entry Value) : Option Table :=
  if (t.find? e.key.name).isSome then none else some (t ++ [e])

/-- A table of the given form with one more assignment. -/
def assign? (form : Form) (t : Table) (a : Assignment) : Option Table :=
  within? .dotted (fun target inner =>
    if a.path.isEmpty || target == .dotted then inner.add? ⟨a.key, some a.span, a.value⟩ else none)
    a.path form t

/-- A table of the given form with more assignments. -/
def assignAll? (form : Form) (t : Table) (as : List Assignment) : Option Table :=
  as.foldlM (assign? form) t

/-- A parent table with one more section right in it.  A table that was implied gets its header now
and goes to the end; an array of tables gets one more element. -/
def addSection? (s : Section) (parent : Table) : Option Table :=
  if s.header.isElement then do
    let inner ← assignAll? .headed [] s.body
    match parent.find? s.header.key.name with
    | none => return parent ++ [⟨s.header.key, some s.span, .tables [(s.span, inner)]⟩]
    | some ⟨_, _, .tables elements⟩ =>
      let first := (elements.head?.map Prod.fst).getD s.span
      return parent.update s.header.key.name (some { first with stop := s.span.stop })
        (.tables (elements ++ [(s.span, inner)]))
    | some _ => none
  else
    match parent.find? s.header.key.name with
    | none => do
      let inner ← assignAll? .headed [] s.body
      return parent ++ [⟨s.header.key, some s.span, .table .headed inner⟩]
    | some ⟨_, _, .table .implied inner⟩ => do
      let inner ← assignAll? .headed inner s.body
      return parent.erase s.header.key.name ++ [⟨s.header.key, some s.span, .table .headed inner⟩]
    | some _ => none

/-- A document with one more section, where its header says. -/
def addSectionAt? (root : Table) (s : Section) : Option Table :=
  within? .implied (fun _ parent => parent.addSection? s) s.header.path .headed root

/-- The table that the statements of a document build, unless one of them is not allowed there. -/
def ofStatements? (statements : List Statement) : Option Table := do
  let root ← assignAll? .headed [] (Section.group statements).1
  (Section.group statements).2.foldlM addSectionAt? root

/-! ## Distinct names

Every step of building keeps the names of a table distinct, so they are in every document. -/

theorem nodup_within? {made : Form} {change : Form → Table → Option Table}
    (hchange : ∀ {form t t'}, change form t = some t' → t.names.Nodup → t'.names.Nodup)
    {path : List Key} {form : Form} {t t' : Table} (h : within? made change path form t = some t')
    (ht : t.names.Nodup) : t'.names.Nodup := by
  cases path with
  | nil => exact hchange h ht
  | cons key path =>
    rw [within?] at h
    split at h
    · rename_i hnone
      obtain ⟨inner, -, h⟩ := Option.bind_eq_some_iff.mp h
      obtain rfl := Option.some.inj h
      exact nodup_concat ht hnone
    · split at h
      · obtain ⟨inner, -, h⟩ := Option.bind_eq_some_iff.mp h
        obtain rfl := Option.some.inj h
        rwa [names_update]
      · simp at h
    · obtain ⟨last, -, h⟩ := Option.bind_eq_some_iff.mp h
      obtain ⟨inner, -, h⟩ := Option.bind_eq_some_iff.mp h
      obtain rfl := Option.some.inj h
      rwa [names_update]
    · simp at h

theorem nodup_add? {t t' : Table} {e : Entry Value} (h : t.add? e = some t')
    (ht : t.names.Nodup) : t'.names.Nodup := by
  unfold add? at h
  split at h
  · simp at h
  · rename_i hnew
    obtain rfl := Option.some.inj h
    exact nodup_concat ht (Option.not_isSome_iff_eq_none.mp hnew)

theorem nodup_assign? {form : Form} {t t' : Table} {a : Assignment}
    (h : t.assign? form a = some t') (ht : t.names.Nodup) : t'.names.Nodup := by
  refine nodup_within? (fun {_ _ _} h => ?_) h ht
  split at h
  · exact nodup_add? h
  · simp at h

theorem nodup_assignAll? {form : Form} {as : List Assignment} {t t' : Table}
    (h : t.assignAll? form as = some t') (ht : t.names.Nodup) : t'.names.Nodup := by
  induction as generalizing t with
  | nil => obtain rfl := Option.some.inj h; exact ht
  | cons a as ih =>
    obtain ⟨next, hnext, h⟩ := Option.bind_eq_some_iff.mp h
    exact ih h (nodup_assign? hnext ht)

theorem nodup_addSection? {s : Section} {t t' : Table} (h : t.addSection? s = some t')
    (ht : t.names.Nodup) : t'.names.Nodup := by
  unfold addSection? at h
  split at h
  · obtain ⟨inner, -, h⟩ := Option.bind_eq_some_iff.mp h
    split at h
    · rename_i hnone
      obtain rfl := Option.some.inj h
      exact nodup_concat ht hnone
    · obtain rfl := Option.some.inj h
      rwa [names_update]
    · simp at h
  · split at h
    · rename_i hnone
      obtain ⟨inner, -, h⟩ := Option.bind_eq_some_iff.mp h
      obtain rfl := Option.some.inj h
      exact nodup_concat ht hnone
    · obtain ⟨inner, -, h⟩ := Option.bind_eq_some_iff.mp h
      obtain rfl := Option.some.inj h
      exact nodup_concat (nodup_erase _ ht) (find?_erase _ _)
    · simp at h

/-- **The names in a document are distinct.** -/
theorem nodup_ofStatements? {statements : List Statement} {t : Table}
    (h : ofStatements? statements = some t) : t.names.Nodup := by
  obtain ⟨root, hroot, h⟩ := Option.bind_eq_some_iff.mp h
  have hnodup : root.names.Nodup := nodup_assignAll? hroot List.nodup_nil
  clear hroot
  generalize (Section.group statements).2 = sections at h
  induction sections generalizing root with
  | nil => obtain rfl := Option.some.inj h; exact hnodup
  | cons s sections ih =>
    obtain ⟨next, hnext, h⟩ := Option.bind_eq_some_iff.mp h
    exact ih next (nodup_within? nodup_addSection? hnext hnodup) h

end Table

end Toml

end BasicTokens
