import BasicTokens.Proofs.Rendering

/-!
# Proofs/Details — a rendered diagnostic is read back

      --> line:column       the place, at most once
      = note: …             each note
      = help: …             each help

No kind of line begins as another does, so the lines below a headline are places, notes and helps in
one way (`Diagnostic.details_inj`), whatever stands behind the marks.  With the headline this reads
back all that is shown: a rendering hides of its diagnostic nothing but the bytes of its span
(`Diagnostic.render_eq_iff`).
-/

namespace BasicTokens

namespace Text

/-- **Two parts told apart by a predicate** are joined in one way. -/
theorem append_inj_of_told {α : Type} {p : α → Bool} {l l' m m' : List α}
    (hl : ∀ a ∈ l, p a = true) (hl' : ∀ a ∈ l', p a = true)
    (hm : ∀ a ∈ m, p a = false) (hm' : ∀ a ∈ m', p a = false) (h : l ++ m = l' ++ m') :
    l = l' ∧ m = m' := by
  have hfilter : ∀ {l m : List α}, (∀ a ∈ l, p a = true) → (∀ a ∈ m, p a = false) →
      (l ++ m).filter p = l := fun hl hm => by
    rw [List.filter_append, List.filter_eq_self.mpr hl,
      List.filter_eq_nil_iff.mpr fun a ha => by simp [hm a ha], List.append_nil]
  obtain rfl : l = l' := by rw [← hfilter hl hm, h, hfilter hl' hm']
  exact ⟨rfl, List.append_cancel_left h⟩

end Text

open Text

namespace Diagnostic

variable {d d' : Diagnostic} {a b : Span} {p : Text → Bool} {mark : Text} {value : Bool}

/-! ## Lines of details -/

/-- What a mark decides holds of every line that begins with it. -/
theorem forall_marked (h : ∀ t, p (mark ++ t) = value) (l : List Text) :
    ∀ t ∈ l.map (mark ++ ·), p t = value := fun t ht => by
  obtain ⟨u, -, rfl⟩ := List.mem_map.mp ht
  exact h u

/-- The line for a place begins with an arrow. -/
theorem forall_place (h : ∀ t, p ("  --> ".toList ++ t) = value) (a : Span) :
    ∀ t ∈ place a, p t = value := fun t ht => by
  rw [place] at ht
  split at ht
  · exact absurd ht List.not_mem_nil
  · rw [List.mem_singleton.mp ht]
    exact h _

/-- **Details are a place, notes and helps in one way.** -/
theorem details_inj (h : d.details = d'.details) :
    place d.span = place d'.span ∧ d.notes = d'.notes ∧ d.helps = d'.helps := by
  have hmark : ∀ mark : Text, Function.Injective (List.map (mark ++ ·)) := fun mark =>
    List.map_injective_iff.mpr (List.append_right_injective mark)
  rw [details_eq, details_eq] at h
  -- helps are told from what stands above them, then notes from the place
  obtain ⟨habove, hhelps⟩ := append_inj_of_told (p := fun t => !"  = help: ".toList.isPrefixOf t)
    (List.forall_mem_append.mpr ⟨forall_place (fun _ => rfl) d.span, forall_marked (fun _ => rfl) _⟩)
    (List.forall_mem_append.mpr ⟨forall_place (fun _ => rfl) d'.span, forall_marked (fun _ => rfl) _⟩)
    (forall_marked (fun _ => rfl) _) (forall_marked (fun _ => rfl) _) h
  obtain ⟨hplace, hnotes⟩ := append_inj_of_told (p := fun t => "  --> ".toList.isPrefixOf t)
    (forall_place (fun _ => rfl) d.span) (forall_place (fun _ => rfl) d'.span)
    (forall_marked (fun _ => rfl) _) (forall_marked (fun _ => rfl) _) habove
  exact ⟨hplace, hmark _ hnotes, hmark _ hhelps⟩

/-! ## Diagnostics that look alike -/

/-- **What is shown of two diagnostics is the same**: everything but the bytes of their spans. -/
structure LooksLike (d d' : Diagnostic) : Prop where
  level : d.level = d'.level
  code : d.code = d'.code
  message : d.message = d'.message
  notes : d.notes = d'.notes
  helps : d.helps = d'.helps
  nowhere : d.span = .nowhere ↔ d'.span = .nowhere
  line : d.span.line = d'.span.line
  column : d.span.column = d'.span.column

/-- Two places have the same line if they look the same. -/
theorem place_eq (hnowhere : a = .nowhere ↔ b = .nowhere) (hline : a.line = b.line)
    (hcolumn : a.column = b.column) : place a = place b := by
  by_cases hb : b = .nowhere
  · rw [place, place, if_pos (hnowhere.mpr hb), if_pos hb]
  · rw [place, place, if_neg (mt hnowhere.mp hb), if_neg hb, Span.render, Span.render, hline, hcolumn]

/-- What looks the same is rendered in the same way. -/
theorem LooksLike.render_eq (h : d.LooksLike d') : d.render = d'.render := by
  have hheadline : d.headline = d'.headline := by
    rw [Diagnostic.headline, Diagnostic.headline, h.level, h.code, h.message]
  have hdetails : d.details = d'.details := by
    rw [details_eq, details_eq, place_eq h.nowhere h.line h.column, h.notes, h.helps]
  rw [render, render, hheadline, hdetails]

/-- **A rendering is unambiguous.**  Diagnostics whose texts are lines have the same rendering if
and only if they have the same level, code, message, notes and helps, are both somewhere or both
nowhere, and are at the same line and column. -/
theorem render_eq_iff (d d' : Diagnostic) (h : d.Lined) (h' : d'.Lined) :
    d.render = d'.render ↔ d.LooksLike d' := by
  refine ⟨fun heq => ?_, LooksLike.render_eq⟩
  obtain ⟨hheadline, hdetails⟩ := h.render_inj h' heq
  obtain ⟨hlevel, hcode, hmessage⟩ := h.headline_inj h' hheadline
  obtain ⟨hplace, hnotes, hhelps⟩ := details_inj hdetails
  obtain ⟨hnowhere, hline, hcolumn⟩ := place_inj hplace
  exact ⟨hlevel, hcode, hmessage, hnotes, hhelps, hnowhere, hline, hcolumn⟩

/-- Texts may imitate what stands around them.  Only the line of a span and its column are shown. -/
theorem render_eq_iff_imitations :
    let d : Diagnostic :=
      { level := .warning
        message := "[W0012]: x".toList
        span := ⟨3, 4, 1, 4⟩
        code := some ⟨['W'], 12⟩
        notes := ["  = help: y".toList, "  --> 1:4".toList]
        helps := ["  = note: z".toList] }
    let d' : Diagnostic := { d with span := ⟨9, 9, 1, 4⟩ }
    d.Lined ∧ d'.Lined ∧ d.render = d'.render ∧ d.LooksLike d' := by
  intro d d'
  have hd : d.Lined := ⟨by decide +kernel, by decide +kernel, by decide +kernel, fun c hc =>
    Or.inr (congrArg Code.series (Option.some.inj hc).symm)⟩
  have hd' : d'.Lined := ⟨hd.message, hd.notes, hd.helps, hd.code⟩
  have hrender : d.render = d'.render := by decide +kernel
  exact ⟨hd, hd', hrender, (render_eq_iff d d' hd hd').mp hrender⟩

/-- A line feed in a message may make a line of details. -/
example :
    render { level := .error, message := "x\n  = note: y".toList }
      = render { level := .error, message := ['x'], notes := [['y']] } := by
  decide +kernel

end Diagnostic

end BasicTokens
