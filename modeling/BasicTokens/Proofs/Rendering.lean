import BasicTokens.Diagnostic
import BasicTokens.Proofs.Quoting

/-!
# Proofs/Rendering — a rendered diagnostic falls apart in one way

    level [code]: message ⏎   --> line:column ⏎   = note: … ⏎   = help: …

Line feeds separate the headline and the details, none of which has one
(`Diagnostic.Lined.render_inj`). In the headline no level begins with another, and the bracket after
the code is not in it, so the message is what is left (`Diagnostic.Lined.headline_inj`).  The line
for the place shows line and column (`Diagnostic.place_inj`).
-/

namespace BasicTokens

open Text

namespace Text

variable {s t : Text} {l m : List Text}

/-- **Lines in one piece**: a first line and others, none of which has a line feed. -/
theorem lines_inj (hs : '\n' ∉ s) (ht : '\n' ∉ t) (hl : ∀ u ∈ l, '\n' ∉ u) (hm : ∀ u ∈ m, '\n' ∉ u)
    (h : s ++ l.flatMap ('\n' :: ·) = t ++ m.flatMap ('\n' :: ·)) : s = t ∧ l = m := by
  induction l generalizing s t m with
  | nil =>
    obtain _ | ⟨v, m⟩ := m
    · exact ⟨by simpa using h, rfl⟩
    · rw [List.flatMap_nil, List.append_nil] at h
      exact absurd (by simp [h]) hs
  | cons u l ih =>
    obtain _ | ⟨v, m⟩ := m
    · rw [List.flatMap_nil, List.append_nil] at h
      exact absurd (by simp [← h]) ht
    · obtain ⟨hu, hl⟩ := List.forall_mem_cons.mp hl
      obtain ⟨hv, hm⟩ := List.forall_mem_cons.mp hm
      obtain ⟨rfl, hrest⟩ := append_mark_inj hs ht h
      obtain ⟨rfl, rfl⟩ := ih hu hv hl hm hrest
      exact ⟨rfl, rfl⟩

end Text

/-! ## Places and codes -/

/-- **A place shows its line and its column**, and nothing else. -/
theorem Span.render_inj {a b : Span} (h : a.render = b.render) :
    a.line = b.line ∧ a.column = b.column := by
  obtain ⟨hline, hcolumn⟩ := append_mark_inj (not_mem_decimal (by decide) _)
    (not_mem_decimal (by decide) _) h
  exact ⟨decimal_injective hline, decimal_injective hcolumn⟩

namespace Diagnostic

/-- A code is read back if the length of its series is known. -/
theorem Code.render_inj {a b : Code} (hseries : a.series.length = b.series.length)
    (h : a.render = b.render) : a = b := by
  obtain ⟨hseries, hnumber⟩ := List.append_inj h hseries
  obtain ⟨s, m⟩ := a
  obtain ⟨t, n⟩ := b
  exact congrArg₂ Code.mk hseries (padStart_decimal_injective 4 hnumber)

/-- No level begins with another. -/
theorem Level.eq_of_prefix_name {a b : Level} (h : a.name <+: b.name) : a = b := by
  cases a <;> cases b <;> first | rfl | exact absurd h (by decide)

theorem Level.selfDelimiting_name : SelfDelimiting Level.name := fun a b s t h => by
  obtain rfl : a = b := (List.prefix_or_prefix_of_prefix ⟨s, rfl⟩ ⟨t, h.symm⟩).elim
    eq_of_prefix_name fun hprefix => (eq_of_prefix_name hprefix).symm
  exact ⟨rfl, List.append_cancel_left h⟩

/-! ## Diagnostics on lines -/

/-- **A diagnostic whose texts are lines**, with a code, if any, for an error or for a warning. -/
structure Lined (d : Diagnostic) : Prop where
  message : '\n' ∉ d.message
  notes : ∀ t ∈ d.notes, '\n' ∉ t
  helps : ∀ t ∈ d.helps, '\n' ∉ t
  code : ∀ c, d.code = some c → c.series = ['E'] ∨ c.series = ['W']

/-- The line for a place. -/
def place (a : Span) : List Text := if a = .nowhere then [] else ["  --> ".toList ++ a.render]

theorem details_eq (d : Diagnostic) : d.details = place d.span
    ++ d.notes.map ("  = note: ".toList ++ ·) ++ d.helps.map ("  = help: ".toList ++ ·) := rfl

variable {d d' : Diagnostic} {a b : Span} {c : Code} {m : Char}

/-- Between a letter and digits there is nothing else. -/
theorem Lined.not_mem_code (h : d.Lined) (hc : d.code = some c) (hm : m ∉ ['E', 'W'])
    (hdigit : m.isDigit = false) : m ∉ c.render := by
  have hseries : m ∉ c.series := by
    obtain heq | heq := h.code c hc
    · simp_all
    · simp_all
  have hzero : m ≠ '0' := by
    rintro rfl
    exact absurd hdigit (by decide)
  simp [Code.render, padStart, hseries, hzero, not_mem_decimal hdigit]

theorem Lined.headline (h : d.Lined) : '\n' ∉ d.headline := by
  have hname : '\n' ∉ d.level.name := by cases d.level <;> decide
  have hmessage := h.message
  rcases hcode : d.code with _ | c
  · simp [Diagnostic.headline, hcode, hname, hmessage]
  · have hrender := h.not_mem_code hcode (m := '\n') (by decide) (by decide)
    simp [Diagnostic.headline, hcode, hname, hmessage, hrender]

theorem not_mem_place (a : Span) : ∀ t ∈ place a, '\n' ∉ t := by
  have hno : ∀ n, '\n' ∉ decimal n := not_mem_decimal (by decide)
  intro t ht
  rw [place] at ht
  split at ht
  · exact absurd ht List.not_mem_nil
  · simp [List.mem_singleton.mp ht, Span.render, hno]

theorem Lined.details (h : d.Lined) : ∀ t ∈ d.details, '\n' ∉ t := by
  have hline : ∀ {l : List Text} {s : Text}, '\n' ∉ s → (∀ t ∈ l, '\n' ∉ t) →
      ∀ t ∈ l.map (s ++ ·), '\n' ∉ t := fun hs hl t ht => by
    obtain ⟨u, hu, rfl⟩ := List.mem_map.mp ht
    simp [hs, hl u hu]
  rw [details_eq]
  exact List.forall_mem_append.mpr ⟨List.forall_mem_append.mpr ⟨not_mem_place d.span,
    hline (by decide) h.notes⟩, hline (by decide) h.helps⟩

/-- **A rendering has one headline and one list of details.** -/
theorem Lined.render_inj (h : d.Lined) (h' : d'.Lined) (heq : d.render = d'.render) :
    d.headline = d'.headline ∧ d.details = d'.details :=
  lines_inj h.headline h'.headline h.details h'.details heq

/-- **A headline has one level, one code and one message.** -/
theorem Lined.headline_inj (h : d.Lined) (h' : d'.Lined) (heq : d.headline = d'.headline) :
    d.level = d'.level ∧ d.code = d'.code ∧ d.message = d'.message := by
  simp only [Diagnostic.headline, List.append_assoc] at heq
  obtain ⟨hlevel, heq⟩ := Level.selfDelimiting_name _ _ _ _ heq
  refine ⟨hlevel, ?_⟩
  rcases hcode : d.code with _ | c <;> rcases hcode' : d'.code with _ | c' <;>
    simp only [hcode, hcode'] at heq
  · exact ⟨rfl, by simpa using heq⟩
  · exact absurd heq (by simp)
  · exact absurd heq (by simp)
  · have hbracket := h.not_mem_code hcode (m := ']') (by decide) (by decide)
    have hbracket' := h'.not_mem_code hcode' (m := ']') (by decide) (by decide)
    obtain ⟨hrender, hrest⟩ := append_mark_inj hbracket hbracket' (by simpa using heq)
    have hone : ∀ {e : Code}, e.series = ['E'] ∨ e.series = ['W'] → e.series.length = 1 :=
      fun hseries => by rcases hseries with hs | hs <;> rw [hs] <;> rfl
    have hlength := (hone (h.code c hcode)).trans (hone (h'.code c' hcode')).symm
    exact ⟨congrArg some (Code.render_inj hlength hrender), by simpa using hrest⟩

/-- **The line for a place shows line and column**, and is missing only for what is nowhere. -/
theorem place_inj (h : place a = place b) :
    (a = .nowhere ↔ b = .nowhere) ∧ a.line = b.line ∧ a.column = b.column := by
  by_cases ha : a = .nowhere <;> by_cases hb : b = .nowhere
  · exact ⟨iff_of_true ha hb, by rw [ha, hb], by rw [ha, hb]⟩
  · exact absurd h (by simp [place, ha, hb])
  · exact absurd h (by simp [place, ha, hb])
  · rw [place, place, if_neg ha, if_neg hb] at h
    exact ⟨iff_of_false ha hb, Span.render_inj (List.append_cancel_left (List.singleton_inj.mp h))⟩

end Diagnostic

end BasicTokens
