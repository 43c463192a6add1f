import Mathlib.Data.List.DropRight
import Mathlib.Order.Bounds.Basic
import BasicTokens.Text

/-!
# Proofs/Boundaries — the bytes after which a text can be cut

    é @        boundaries 0, 2, 3: `é` has two bytes, so there is none at 1

A boundary is the number of bytes of an initial part (`IsBoundary`).  Counting the characters that
begin within some bytes rounds up to the next boundary, or to the end (`isLeast_byteLength_take`),
so two counts add up to one if no rounding takes place at the first (`countWithin_add`).
-/

namespace BasicTokens

namespace Text

variable {s t u v : Text} {c : Char} {a b n : Nat}

/-! ## Beginnings of a text -/

/-- Of two beginnings of a text, the one with fewer characters has fewer bytes. -/
theorem length_le_iff_byteLength_le (h : s ++ u = t ++ v) :
    s.length ≤ t.length ↔ s.byteLength ≤ t.byteLength := by
  rcases List.append_eq_append_iff.mp h with ⟨x, rfl, -⟩ | ⟨x, rfl, -⟩
  · simp [byteLength_append]
  · rcases eq_or_ne x [] with rfl | hx
    · simp
    · have hlength := List.length_pos_iff.mpr hx
      have hbytes := byteLength_pos hx
      rw [List.length_append, byteLength_append]
      omega

/-- Of two beginnings of a text, the one with fewer bytes is a beginning of the other. -/
theorem prefix_of_byteLength_le (h : s ++ u = t ++ v) (hle : s.byteLength ≤ t.byteLength) : s <+: t :=
  List.prefix_of_prefix_length_le (List.prefix_append s u) (h ▸ List.prefix_append t v)
    ((length_le_iff_byteLength_le h).mpr hle)

/-- A beginning of a text is known by the number of its bytes. -/
theorem append_inj_of_byteLength (h : s ++ u = t ++ v) (heq : s.byteLength = t.byteLength) :
    s = t ∧ u = v :=
  List.append_inj h (Nat.le_antisymm ((length_le_iff_byteLength_le h).mpr heq.le)
    ((length_le_iff_byteLength_le h.symm).mpr heq.ge))

/-! ## Boundaries -/

/-- A place where a text can be cut: as many bytes as one of its initial parts has. -/
def IsBoundary (t : Text) (n : Nat) : Prop := ∃ s, s <+: t ∧ byteLength s = n

theorem isBoundary_zero (t : Text) : IsBoundary t 0 := ⟨[], List.nil_prefix, rfl⟩

theorem isBoundary_byteLength_append (s t : Text) : IsBoundary (s ++ t) (byteLength s) :=
  ⟨s, List.prefix_append s t, rfl⟩

/-- After the first character the boundaries are those of the text that follows it. -/
theorem isBoundary_cons_iff (hn : 0 < n) :
    IsBoundary (c :: t) n ↔ ∃ m, n = c.utf8Size + m ∧ IsBoundary t m := by
  constructor
  · rintro ⟨_ | ⟨d, s⟩, hs, rfl⟩
    · exact absurd hn (Nat.lt_irrefl 0)
    · obtain ⟨rfl, htail⟩ := List.cons_prefix_cons.mp hs
      exact ⟨byteLength s, rfl, s, htail, rfl⟩
  · rintro ⟨m, rfl, s, hs, rfl⟩
    exact ⟨c :: s, List.cons_prefix_cons.mpr ⟨rfl, hs⟩, rfl⟩

/-- …and so they are after any initial part. -/
theorem isBoundary_append_iff :
    IsBoundary (s ++ t) (byteLength s + n) ↔ IsBoundary t n := by
  induction s with
  | nil => rw [List.nil_append, byteLength_nil, Nat.zero_add]
  | cons c s ih =>
    have hpos := c.utf8Size_pos
    rw [byteLength_cons, Nat.add_assoc, List.cons_append, isBoundary_cons_iff (by omega), ← ih]
    exact ⟨fun ⟨m, hm, h⟩ => Nat.add_left_cancel hm ▸ h, fun h => ⟨_, rfl, h⟩⟩

/-- **A text can be cut at its boundaries**, and nowhere else. -/
theorem isSome_dropBytes?_iff : (t.dropBytes? n).isSome = true ↔ IsBoundary t n := by
  fun_induction dropBytes? n t with
  | case1 t => simp [isBoundary_zero]
  | case2 n => simp [IsBoundary]
  | case3 n c t hle ih =>
    rw [ih, isBoundary_cons_iff (Nat.succ_pos n)]
    refine ⟨fun h => ⟨_, by omega, h⟩, fun ⟨m, hm, h⟩ => ?_⟩
    rwa [show n + 1 - c.utf8Size = m by omega]
  | case4 n c t hgt =>
    rw [isBoundary_cons_iff (Nat.succ_pos n)]
    simp only [Option.isSome_none, Bool.false_eq_true, false_iff]
    rintro ⟨m, hm, -⟩
    omega

instance : Decidable (IsBoundary t n) := decidable_of_iff _ isSome_dropBytes?_iff

/-! ## Slices -/

/-- What stands after some bytes follows a beginning of that length. -/
theorem exists_of_dropBytes? (h : t.dropBytes? n = some u) : ∃ s, t = s ++ u ∧ s.byteLength = n := by
  obtain ⟨s, ⟨v, rfl⟩, rfl⟩ := isSome_dropBytes?_iff.mp (Option.isSome_of_eq_some h)
  rw [dropBytes?_byteLength_append] at h
  exact ⟨s, by rw [Option.some.inj h], rfl⟩

/-- What is taken is a beginning of the length asked for. -/
theorem prefix_of_takeBytes? (h : t.takeBytes? n = some s) : s <+: t ∧ s.byteLength = n := by
  fun_induction takeBytes? n t generalizing s with
  | case1 t =>
    obtain rfl := Option.some.inj h
    exact ⟨List.nil_prefix, rfl⟩
  | case2 n => simp at h
  | case3 n c t hle ih =>
    obtain ⟨u, hu, rfl⟩ := Option.map_eq_some_iff.mp h
    obtain ⟨hfront, hsize⟩ := ih hu
    exact ⟨List.cons_prefix_cons.mpr ⟨rfl, hfront⟩, by rw [byteLength_cons, hsize]; omega⟩
  | case4 n c t hgt => simp at h

/-- **A slice is the part between two places**, and nothing else is. -/
theorem slice?_eq_some_iff : t.slice? a b = some s ↔
    ∃ u v, t = u ++ (s ++ v) ∧ u.byteLength = a ∧ a + s.byteLength = b := by
  constructor
  · intro h
    rw [slice?] at h
    split at h
    · obtain ⟨w, hdrop, htake⟩ := Option.bind_eq_some_iff.mp h
      obtain ⟨u, rfl, rfl⟩ := exists_of_dropBytes? hdrop
      obtain ⟨⟨v, rfl⟩, hsize⟩ := prefix_of_takeBytes? htake
      exact ⟨u, v, rfl, rfl, by omega⟩
    · simp at h
  · rintro ⟨u, v, rfl, rfl, rfl⟩
    exact slice?_append u s v

/-! ## Characters within some bytes -/

/-- **Whole characters are counted up to the first boundary that is not too early**, or up to the
end. -/
theorem isLeast_byteLength_take (n : Nat) (t : Text) :
    IsLeast {b | IsBoundary t b ∧ min n (byteLength t) ≤ b}
      (byteLength (t.take (countWithin n t))) := by
  fun_induction countWithin n t with
  | case1 t => exact ⟨⟨isBoundary_zero t, by simp⟩, fun b _ => Nat.zero_le b⟩
  | case2 n => exact ⟨⟨isBoundary_zero [], by simp⟩, fun b _ => Nat.zero_le b⟩
  | case3 n c t ih =>
    obtain ⟨⟨hcut, hge⟩, hleast⟩ := ih
    have hpos := c.utf8Size_pos
    rw [List.take_succ_cons, byteLength_cons, byteLength_cons]
    refine ⟨⟨(isBoundary_cons_iff (by omega)).mpr ⟨_, rfl, hcut⟩, by omega⟩, ?_⟩
    rintro b ⟨hb, hbound⟩
    obtain ⟨m, rfl, hm⟩ := (isBoundary_cons_iff (by omega)).mp hb
    have hle := hleast ⟨hm, by omega⟩
    omega

/-- **Two counts add up** if the first ends at a boundary or past the end. -/
theorem countWithin_add (ha : IsBoundary t a ∨ byteLength t < a) (b : Nat) :
    countWithin (a + b) t = countWithin a t + countWithin b (t.drop (countWithin a t)) := by
  obtain ⟨s, ⟨u, rfl⟩, rfl⟩ | hend := ha
  · rw [countWithin_byteLength_append, List.drop_left, countWithin_append]
  · -- past the end nothing is left to count
    have hall : ∀ n, byteLength t ≤ n → countWithin n t = t.length := fun n hn => by
      simpa [Nat.add_sub_cancel' hn] using countWithin_append t [] (n - byteLength t)
    rw [hall a (by omega), hall (a + b) (by omega), List.drop_length, countWithin_nil, Nat.add_zero]

end Text

end BasicTokens
