import BasicTokens.Diagnostic

/-!
# Diagnostic/Builder — a diagnostic put together part by part

    start .error "bad"   code E1002   note "a"   help "b"   code E1003   note "c"
    error[E1003]: bad
      = note: a
      = note: c
      = help: b

Of the codes and of the places that a builder is given the last one stands; notes and helps are kept
in the order in which they come.  `build_addAll` says so of any parts in any order.
-/

namespace BasicTokens

namespace Diagnostic

/-- What is known so far about a problem. -/
structure Builder where
  level : Level
  message : Text
  span : Span := .nowhere
  code : Option Code := none
  notes : List Text := []
  helps : List Text := []

/-- What can be told to a builder. -/
inductive Part where
  | code (code : Code)
  | span (span : Span)
  | note (note : Text)
  | help (help : Text)

namespace Part

/-- The code that a part gives. -/
def code? : Part → Option Code
  | code c => some c
  | _ => none

/-- The place that a part gives. -/
def span? : Part → Option Span
  | span a => some a
  | _ => none

/-- The note that a part gives. -/
def note? : Part → Option Text
  | note text => some text
  | _ => none

/-- The help that a part gives. -/
def help? : Part → Option Text
  | help text => some text
  | _ => none

end Part

/-- The diagnostic that some parts make: the last code and the last place among them, all notes and
all helps. -/
def ofParts (level : Level) (message : Text) (parts : List Part) : Diagnostic where
  level
  message
  span := (parts.filterMap Part.span?).getLast?.getD .nowhere
  code := (parts.filterMap Part.code?).getLast?
  notes := parts.filterMap Part.note?
  helps := parts.filterMap Part.help?

/-- The usual parts: a code, a place, some notes and some helps. -/
theorem ofParts_cons_code_span (level : Level) (message : Text) (code : Code) (span : Span)
    (notes helps : List Text) :
    ofParts level message (.code code :: .span span :: (notes.map .note ++ helps.map .help))
      = { level, message, span, code := some code, notes, helps } := by
  have hnone (α : Type) (texts : List Text) : texts.filterMap (fun _ => (none : Option α)) = [] :=
    List.filterMap_eq_nil_iff.mpr fun _ _ => rfl
  simp [ofParts, hnone, List.filterMap_cons, List.filterMap_map, Function.comp_def, Part.code?,
    Part.span?, Part.note?, Part.help?]

namespace Builder

/-- A builder that was told nothing yet. -/
def start (level : Level) (message : Text) : Builder := { level, message }

/-- A builder of an error. -/
def error (message : Text) : Builder := start .error message

/-- A builder of a warning. -/
def warning (message : Text) : Builder := start .warning message

/-- The builder that is told one more part. -/
def add (b : Builder) : Part → Builder
  | .code code => { b with code := some code }
  | .span span => { b with span }
  | .note note => { b with notes := b.notes ++ [note] }
  | .help help => { b with helps := b.helps ++ [help] }

/-- The builder that is told some parts, one after the other. -/
def addAll (b : Builder) (parts : List Part) : Builder := parts.foldl add b

/-- The diagnostic that was put together. -/
def build (b : Builder) : Diagnostic where
  level := b.level
  message := b.message
  span := b.span
  code := b.code
  notes := b.notes
  helps := b.helps

/-- **What is built**: a code or a place among the parts replaces the one from before, notes and
helps are added to those from before. -/
theorem build_addAll (parts : List Part) : ∀ b : Builder,
    (b.addAll parts).build =
      { level := b.level, message := b.message
        span := (parts.filterMap Part.span?).getLast?.getD b.span
        code := (parts.filterMap Part.code?).getLast?.or b.code
        notes := b.notes ++ parts.filterMap Part.note?
        helps := b.helps ++ parts.filterMap Part.help? } := by
  induction parts with
  | nil => intro b; simp [addAll, build]
  | cons part parts ih =>
    intro b
    rw [addAll, List.foldl_cons, ← addAll, ih (b.add part)]
    cases part <;>
      simp [add, Part.code?, Part.span?, Part.note?, Part.help?, List.filterMap_cons,
        List.getLast?_cons]

/-- From a builder that was told nothing, the parts are all there is. -/
theorem build_addAll_start (level : Level) (message : Text) (parts : List Part) :
    ((start level message).addAll parts).build = ofParts level message parts := by
  rw [build_addAll, start, ofParts, Option.or_none, List.nil_append, List.nil_append]

end Builder

end Diagnostic

end BasicTokens
