import BasicTokens.Proofs.Agreement
import BasicTokens.Proofs.UpperCase

/-!
# Proofs/Rules — the rules of the classifier exclude one another

    "…"  "…   1 .5   A_1   <=  +   ( ,        forms of texts, told by the first character
      string number  name  operator delimiter

A text has at most one of the six forms that the grammar recognizes (`Grammar.Form.eq_of_accepts`),
because the form is decided by the first character and, after a quote, by whether another follows
(`Grammar.form?`).  So of the classifier's rules after the first only those for reserved words and
for names can both accept a text, and any arrangement of them that keeps these two in order decides
alike (`Token.Arranged.findSome?_eq`).
-/

namespace BasicTokens

open Character Grammar Text

/-! ## Forms -/

namespace Grammar

/-- The forms of whole texts. -/
inductive Form where
  | closedString
  | openString
  | number
  | name
  | operator
  | delimiter
deriving DecidableEq

/-- Whether a text has a form. -/
def Form.accepts : Form → Text → Bool
  | closedString => isStringLiteral
  | openString => isOpenString
  | number => isNumber
  | name => isIdentifier
  | operator => isOperator
  | delimiter => isDelimiter

/-- The only form that a text can have, if it has any. -/
def form? : Text → Option Form
  | [] => none
  | c :: t =>
    if c = '"' then some (if t.contains '"' then .closedString else .openString)
    else if c.isDigit || c = '.' then some .number
    else if isNameStart c then some .name
    else if delimiters.contains [c] then some .delimiter
    else some .operator

variable {t k : Text} {c : Char} {f g : Form} {ignoreCase : Bool}

/-- What follows an opening quote decides the form. -/
theorem form?_quote (t : Text) :
    form? ('"' :: t) = some (if t.contains '"' then .closedString else .openString) := by
  rw [form?, if_pos rfl]

theorem form?_number (hc : c.isDigit = true ∨ c = '.') : form? (c :: t) = some .number := by
  have hquote : c ≠ '"' := by
    rcases hc with hdigit | rfl
    · exact ne_quote_of_isNamePart (isNamePart_of_isDigit hdigit)
    · decide
  rw [form?, if_neg hquote, if_pos (by simpa using hc)]

theorem form?_name (hc : isNameStart c = true) : form? (c :: t) = some .name := by
  have hquote : c ≠ '"' := ne_quote_of_isNamePart (isNamePart_of_isNameStart hc)
  have hpoint : c ≠ '.' := by
    rintro rfl
    exact absurd hc (by decide)
  rw [form?, if_neg hquote, if_neg (by simp [isDigit_of_isNameStart hc, hpoint]), if_pos hc]

/-- A string is known by its first character. -/
theorem exists_cons_quote {p : Text → Bool}
    (hp : ∀ t, beginsWith (· == '"') t = false → p t = false) (h : p t = true) :
    ∃ u, t = '"' :: u := by
  rcases hbegins : beginsWith (· == '"') t
  · exact absurd h (by simp [hp t hbegins])
  · obtain ⟨c, u, rfl, hc⟩ := exists_cons_of_beginsWith hbegins
    obtain rfl : c = '"' := by simpa using hc
    exact ⟨u, rfl⟩

/-- **The first character tells the form** of a text that has one. -/
theorem form?_of_accepts (h : f.accepts t = true) : form? t = some f := by
  cases f with
  | closedString =>
    obtain ⟨u, rfl⟩ := exists_cons_quote (fun _ => isStringLiteral_eq_false) h
    have hin : '"' ∈ u := by
      by_contra hno
      exact absurd h (by simp [Form.accepts, isStringLiteral_open hno])
    rw [form?_quote, if_pos (by simpa using hin)]
  | openString =>
    obtain ⟨u, rfl⟩ := exists_cons_quote (fun _ => isOpenString_eq_false) h
    have hplain : ∀ c ∈ u, c ≠ '"' ∧ isLineEnd c = false := by
      simpa [Form.accepts, isOpenString] using h
    have hno : '"' ∉ u := fun hmem => (hplain _ hmem).1 rfl
    rw [form?_quote, if_neg (by simpa using hno)]
  | number =>
    rcases digits_or_decimal_of_isNumber h with ⟨hne, hall⟩ | ⟨_ | ⟨c, s⟩, u, rfl, hs, -, -⟩
    · obtain ⟨c, t, rfl⟩ := List.exists_cons_of_ne_nil hne
      exact form?_number (Or.inl (hall c List.mem_cons_self))
    · exact form?_number (Or.inr rfl)
    · exact form?_number (Or.inl (hs c List.mem_cons_self))
  | name =>
    obtain ⟨c, u, rfl, hc⟩ := exists_cons_of_beginsWith (isIdentifier_iff.mp h).1
    exact form?_name hc
  | operator =>
    exact (by decide : ∀ t ∈ operators, form? t = some .operator) t (List.contains_iff_mem.mp h)
  | delimiter =>
    exact (by decide : ∀ t ∈ delimiters, form? t = some .delimiter) t (List.contains_iff_mem.mp h)

/-- **A text has at most one form.** -/
theorem Form.eq_of_accepts (hf : f.accepts t = true) (hg : g.accepts t = true) : f = g :=
  Option.some.inj ((form?_of_accepts hf).symm.trans (form?_of_accepts hg))

/-- Only a name can begin with the comment marker. -/
theorem Form.eq_name_of_startsRemark (hmarker : startsRemark ignoreCase t = true)
    (hf : f.accepts t = true) : f = .name := by
  obtain ⟨c, u, rfl, hc⟩ := exists_cons_of_beginsWith (beginsWith_of_startsRemark hmarker)
  exact Option.some.inj ((form?_of_accepts hf).symm.trans (form?_name hc))

/-- Reserved words are names. -/
theorem isIdentifier_of_keyword? (h : keyword? t = some k) : isIdentifier t = true := by
  rw [← isIdentifier_toUpper, ← eq_toUpper_of_keyword? h]
  exact (by decide : ∀ k ∈ keywords, isIdentifier k = true) k (mem_keywords_of_keyword? h)

end Grammar

/-! ## Rules -/

namespace Token

/-- The rules that the classifier tries after the one for comments. -/
inductive Rule where
  | string
  | number
  | keyword
  | identifier
  | operator
  | delimiter
deriving DecidableEq

/-- The rule for the texts of a form. -/
def Rule.ofForm : Form → Rule
  | .closedString => .string
  | .openString => .string
  | .number => .number
  | .name => .identifier
  | .operator => .operator
  | .delimiter => .delimiter

/-- What a rule makes of a text, if it accepts it. -/
def Rule.token? (settings : Settings) (t : Text) (offset : Nat) : Rule → Option Token
  | string => if isString settings t then some ⟨.string, t, offset⟩ else none
  | number => if isNumber t then some ⟨.number, t, offset⟩ else none
  | keyword => (keyword? t).map (⟨.keyword, ·, offset⟩)
  | identifier => if isIdentifier t then some ⟨.identifier, t, offset⟩ else none
  | operator => if isOperator t then some ⟨.operator, t, offset⟩ else none
  | delimiter => if isDelimiter t then some ⟨.delimiter, t, offset⟩ else none

/-- The rules as the classifier tries them. -/
def Rule.ordered : List Rule := [string, number, keyword, identifier, operator, delimiter]

/-- The token of a trimmed text by rules tried in a given order, after the one for comments. -/
def ofTrimmedBy (rules : List Rule) (settings : Settings) (t : Text) (offset : Nat) : Token :=
  if startsRemark settings.caseInsensitiveRemarks t then ⟨.comment, t, offset⟩
  else (rules.findSome? (Rule.token? settings t offset)).getD ⟨.unknown, t, offset⟩

/-- The token of a text by rules tried in a given order. -/
def classifyBy (rules : List Rule) (settings : Settings) (t : Text) (offset : Nat) : Token :=
  ofTrimmedBy rules settings (t.trim isBlank) (offset + (t.takeWhile isBlank).length)

/-- **All rules in some order**, the one for reserved words before the one for names. -/
structure Arranged (rules : List Rule) : Prop where
  perm : rules.Perm Rule.ordered
  keyword_first : rules.idxOf .keyword < rules.idxOf .identifier

variable {settings : Settings} {t : Text} {offset : Nat} {rules rules' : List Rule} {r r' : Rule}
  {token : Token}

theorem arranged_ordered : Arranged Rule.ordered := ⟨.refl _, by decide⟩

theorem Arranged.mem (h : Arranged rules) (r : Rule) : r ∈ rules := by
  rw [h.perm.mem_iff]
  cases r <;> decide

/-- The first rule of a list decides, if it accepts. -/
theorem getD_findSome?_cons (p : Rule → Option Token) (r : Rule) (rules : List Rule) (d : Token) :
    ((r :: rules).findSome? p).getD d = (p r).getD ((rules.findSome? p).getD d) := by
  rw [List.findSome?_cons]
  cases p r <;> rfl

/-- **The classifier tries the rules in order.** -/
theorem classifyBy_ordered (settings : Settings) (t : Text) (offset : Nat) :
    classifyBy Rule.ordered settings t offset = classify settings t offset := by
  have hite : ∀ (b : Bool) (a d : Token), (if b then some a else none).getD d = if b then a else d :=
    fun b _ _ => by cases b <;> rfl
  rw [classify_eq]
  simp only [classifyBy, ofTrimmedBy, ofTrimmed, Rule.ordered, getD_findSome?_cons,
    List.findSome?_nil, Rule.token?, hite, Option.getD_none]
  cases keyword? (t.trim isBlank) <;> rfl

/-! ## Which rule decides -/

/-- A rule accepts only texts of its form, and the one for reserved words only names. -/
theorem Rule.exists_form (h : r.token? settings t offset = some token) :
    ∃ f : Form, f.accepts t = true ∧ (r = .ofForm f ∨ r = .keyword ∧ f = .name) := by
  cases r with
  | string =>
    obtain ⟨hstring, -⟩ := Option.ite_none_right_eq_some.mp h
    obtain hclosed | ⟨-, hopen⟩ : isStringLiteral t = true ∨ _ ∧ isOpenString t = true := by
      simpa only [isString, Bool.or_eq_true, Bool.and_eq_true] using hstring
    · exact ⟨.closedString, hclosed, Or.inl rfl⟩
    · exact ⟨.openString, hopen, Or.inl rfl⟩
  | number => exact ⟨.number, (Option.ite_none_right_eq_some.mp h).1, Or.inl rfl⟩
  | keyword =>
    obtain ⟨k, hk, -⟩ := Option.map_eq_some_iff.mp h
    exact ⟨.name, isIdentifier_of_keyword? hk, Or.inr ⟨rfl, rfl⟩⟩
  | identifier => exact ⟨.name, (Option.ite_none_right_eq_some.mp h).1, Or.inl rfl⟩
  | operator => exact ⟨.operator, (Option.ite_none_right_eq_some.mp h).1, Or.inl rfl⟩
  | delimiter => exact ⟨.delimiter, (Option.ite_none_right_eq_some.mp h).1, Or.inl rfl⟩

/-- The rule that decides: it accepts the text, and if it is the one for names, the one for reserved
words does not. -/
def Rule.Decides (settings : Settings) (t : Text) (offset : Nat) (r : Rule) (token : Token) : Prop :=
  r.token? settings t offset = some token ∧
    (r = .identifier → Rule.token? settings t offset .keyword = none)

/-- **One rule decides at most**, because a text has at most one form. -/
theorem Rule.Decides.unique {token' : Token} (h : r.Decides settings t offset token)
    (h' : r'.Decides settings t offset token') : token = token' := by
  obtain ⟨f, hf, hr⟩ := exists_form h.1
  obtain ⟨g, hg, hr'⟩ := exists_form h'.1
  obtain rfl := Form.eq_of_accepts hf hg
  have hsame : r = r' := by
    rcases hr with rfl | ⟨rfl, rfl⟩ <;> rcases hr' with rfl | ⟨rfl, hname⟩
    · rfl
    · subst hname
      exact absurd (h.2 rfl) (by simp [h'.1])
    · exact absurd (h'.2 rfl) (by simp [h.1])
    · rfl
  subst hsame
  exact Option.some.inj (h.1.symm.trans h'.1)

/-- **What is found first in an arrangement, a deciding rule makes.** -/
theorem Arranged.exists_decides (h : Arranged rules)
    (hfound : rules.findSome? (Rule.token? settings t offset) = some token) :
    ∃ r : Rule, r.Decides settings t offset token := by
  obtain ⟨before, r, after, rfl, hr, hbefore⟩ := List.findSome?_eq_some_iff.mp hfound
  refine ⟨r, hr, ?_⟩
  rintro rfl
  refine hbefore .keyword ?_
  by_contra hno
  have hname : Rule.identifier ∉ before := fun hmem => by simp [hbefore _ hmem] at hr
  have hfirst := h.keyword_first
  rw [List.idxOf_append_of_notMem hno, List.idxOf_append_of_notMem hname, List.idxOf_cons_self] at hfirst
  omega

/-- **Every arrangement of the rules finds the same.** -/
theorem Arranged.findSome?_eq (h : Arranged rules) (h' : Arranged rules') (settings : Settings)
    (t : Text) (offset : Nat) :
    rules.findSome? (Rule.token? settings t offset)
      = rules'.findSome? (Rule.token? settings t offset) := by
  have hnone : ∀ {l l' : List Rule}, Arranged l → Arranged l' →
      l.findSome? (Rule.token? settings t offset) = none →
        l'.findSome? (Rule.token? settings t offset) = none := fun hl _ hfound =>
    List.findSome?_eq_none_iff.mpr fun r _ => List.findSome?_eq_none_iff.mp hfound r (hl.mem r)
  rcases hfound : rules.findSome? (Rule.token? settings t offset) with _ | token
  · rw [hnone h h' hfound]
  · rcases hfound' : rules'.findSome? (Rule.token? settings t offset) with _ | token'
    · exact absurd (hnone h' h hfound') (by simp [hfound])
    · obtain ⟨r, hr⟩ := h.exists_decides hfound
      obtain ⟨r', hr'⟩ := h'.exists_decides hfound'
      rw [hr.unique hr']

/-- **The rules exclude one another**, save that reserved words are names and that a name may begin
with the comment marker.  So they may be tried in any order that has the one for comments first and
the one for reserved words before the one for names. -/
theorem rules_exclusive (settings : Settings) (t : Text) :
    (∀ f g : Form, f.accepts t = true → g.accepts t = true → f = g) ∧
    (∀ k, keyword? t = some k → isIdentifier t = true ∧ k = t.toUpper) ∧
    (∀ ignoreCase, startsRemark ignoreCase t = true →
      ∀ f : Form, f.accepts t = true → f = .name) ∧
    ∀ rules, Arranged rules → ∀ offset,
      classifyBy rules settings t offset = classify settings t offset := by
  refine ⟨fun f g => Form.eq_of_accepts, fun k hk => ?_, fun ignoreCase hmarker f => ?_, ?_⟩
  · exact ⟨isIdentifier_of_keyword? hk, eq_toUpper_of_keyword? hk⟩
  · exact Form.eq_name_of_startsRemark hmarker
  · intro rules h offset
    rw [← classifyBy_ordered, classifyBy, classifyBy, ofTrimmedBy, ofTrimmedBy,
      h.findSome?_eq arranged_ordered]

/-- The rules from last to first, but for reserved words and names.  The marker in lower case is a
name that begins with the marker. -/
theorem rules_exclusive_reversed :
    let reversed : List Rule := [.delimiter, .operator, .keyword, .identifier, .number, .string]
    let t : Text := ['r', 'e', 'm']
    (startsRemark true t = true ∧ Form.name.accepts t = true ∧ Form.number.accepts t = false) ∧
      (keyword? t = some remark ∧ isIdentifier t = true ∧ remark = t.toUpper) ∧
      Arranged reversed ∧ ∀ offset, classifyBy reversed {} t offset = classify {} t offset := by
  intro reversed t
  obtain ⟨hsame, hword, hmarker, harranged⟩ := rules_exclusive {} t
  have hname : Form.name.accepts t = true := by decide +kernel
  have hstarts : startsRemark true t = true := by decide +kernel
  have hkeyword : keyword? t = some remark := by decide +kernel
  have hreversed : Arranged reversed := ⟨by decide, by decide⟩
  have hnumber : Form.number.accepts t = false := by
    by_contra hyes
    have hyes : Form.number.accepts t = true := by simpa using hyes
    exact absurd ((hsame _ _ hyes hname).trans (hmarker true hstarts _ hname).symm) (by decide)
  exact ⟨⟨hstarts, hname, hnumber⟩, ⟨hkeyword, hword remark hkeyword⟩, hreversed,
    harranged _ hreversed⟩

end Token

end BasicTokens
