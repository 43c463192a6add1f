import BasicTokens.Lexer
import BasicTokens.Proofs.Quoting

/-!
# Proofs/Listing — a listing of tokens is read back

    [STRING: "x] at position 5"] at position 24
     kind  : text, as it is    ] at position offset

The text of a token stands in its listing as it is, so it may imitate everything around it.  The
rest is read from both ends: the name of a kind has no colon, so the first one ends it, and a
numeral has no space, so it begins after the last one.  What is left between them is the text
(`Token.render_inj`).
-/

namespace BasicTokens

open Text

namespace Token

variable {a b : Token}

/-! ## Names of kinds -/

theorem Kind.colon_not_mem_name (k : Kind) : ':' ∉ k.name := by cases k <;> decide

/-- **A name names one kind**: the initials differ. -/
theorem Kind.name_injective : Function.Injective Kind.name := by
  have hinitial : ∀ k l : Kind, k.name.head? = l.name.head? → k = l := by
    intro k l
    cases k <;> cases l <;> decide
  exact fun k l h => hinitial k l (congrArg List.head? h)

/-! ## Listed tokens -/

/-- **A listed token has one kind, one text and one offset.** -/
theorem render_inj (h : a.render = b.render) :
    a.kind = b.kind ∧ a.text = b.text ∧ a.offset = b.offset := by
  have hframe : ∀ t : Token, t.render = '[' :: (t.kind.name
      ++ ':' :: (' ' :: (t.text ++ "] at position".toList) ++ ' ' :: decimal t.offset)) := by
    intro t
    simp [render]
  rw [hframe, hframe] at h
  -- from the left, and then what follows the colon from the right
  obtain ⟨hkind, hrest⟩ := append_mark_inj a.kind.colon_not_mem_name b.kind.colon_not_mem_name
    (List.cons.inj h).2
  obtain ⟨htext, hoffset⟩ := append_last_mark_inj (not_mem_decimal (by decide) a.offset)
    (not_mem_decimal (by decide) b.offset) hrest
  exact ⟨Kind.name_injective hkind, List.append_cancel_right (List.cons.inj htext).2,
    decimal_injective hoffset⟩

theorem render_injective : Function.Injective render := fun a b h => by
  obtain ⟨hkind, htext, hoffset⟩ := render_inj h
  cases a
  cases b
  exact (Token.mk.injEq ..).mpr ⟨hkind, htext, hoffset⟩

end Token

/-- **A listing determines its tokens.**  Two tokens are listed alike if and only if they have the
same kind, text and offset, whatever stands in their texts; and two sources are, under any settings,
if and only if they have the same tokens. -/
theorem listing_eq_iff :
    (∀ a b : Token, a.render = b.render ↔
      a.kind = b.kind ∧ a.text = b.text ∧ a.offset = b.offset) ∧
    ∀ (settings settings' : Settings) (source source' : Text),
      (tokenizeCollecting settings source).1.map Token.render
          = (tokenizeCollecting settings' source').1.map Token.render ↔
        (tokenizeCollecting settings source).1 = (tokenizeCollecting settings' source').1 := by
  refine ⟨fun a b => ⟨Token.render_inj, ?_⟩, fun settings settings' source source' => ?_⟩
  · rintro ⟨hkind, htext, hoffset⟩
    rw [Token.render, Token.render, hkind, htext, hoffset]
  · exact (List.map_injective_iff.mpr Token.render_injective).eq_iff

/-- A text may end as a listed token does. -/
example :
    Token.render ⟨.string, "x] at position 5".toList, 12⟩
      = "[STRING: x] at position 5] at position 12".toList := by
  decide +kernel

end BasicTokens
