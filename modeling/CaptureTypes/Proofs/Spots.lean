/-
# Places of a text

`Spot.Reaches` says that one place comes after another, or is the same.  The
places after a place are in one line, so the bytes before a place tell it
from all others: `Spot.forward` finds it by them.  The places after the start
of a text are the boundaries of its characters.
-/
import CaptureTypes.Pattern.Compiled

namespace CaptureTypes.Pattern

namespace Spot

/-- A place is another one or comes after it. -/
inductive Reaches (s : Spot) : Spot → Prop where
  | refl : s.Reaches s
  | pass {bytes : Nat} {before : Option Char} {c : Char} {rest : List Char}
      (h : s.Reaches ⟨bytes, before, c :: rest⟩) :
      s.Reaches ⟨bytes + c.utf8Size, some c, rest⟩

variable {s t u : Spot}

theorem next?_eq_some_iff : s.next? = some t ↔
    ∃ c rest, s.rest = c :: rest ∧ t = ⟨s.bytes + c.utf8Size, some c, rest⟩ := by
  rw [next?]
  cases s.rest with
  | nil => simp
  | cons c rest =>
      constructor
      · exact fun h => ⟨c, rest, rfl, (Option.some.inj h).symm⟩
      · rintro ⟨c', rest', h, rfl⟩
        cases h
        rfl

theorem bytes_lt_of_next? (h : s.next? = some t) : s.bytes < t.bytes := by
  obtain ⟨c, rest, -, rfl⟩ := next?_eq_some_iff.mp h
  exact Nat.lt_add_of_pos_right c.utf8Size_pos

theorem length_of_next? (h : s.next? = some t) : t.rest.length + 1 = s.rest.length := by
  obtain ⟨c, rest, hrest, rfl⟩ := next?_eq_some_iff.mp h
  rw [hrest, List.length_cons]

namespace Reaches

theorem trans (h : s.Reaches t) (h' : t.Reaches u) : s.Reaches u := by
  induction h' with
  | refl => exact h
  | pass _ ih => exact ih.pass

theorem next (h : s.Reaches t) (hnext : t.next? = some u) : s.Reaches u := by
  obtain ⟨bytes, before, rest⟩ := t
  obtain ⟨c, rest, hrest, rfl⟩ := next?_eq_some_iff.mp hnext
  cases hrest
  exact h.pass

/-- A place that comes later comes after the next one. -/
theorem eq_or_next (h : s.Reaches t) : t = s ∨ ∃ n, s.next? = some n ∧ n.Reaches t := by
  induction h with
  | refl => exact .inl rfl
  | pass h ih =>
      rcases ih with ih | ⟨n, hn, ih⟩
      · exact .inr ⟨_, ih ▸ rfl, .refl⟩
      · exact .inr ⟨n, hn, ih.pass⟩

theorem bytes_le (h : s.Reaches t) : s.bytes ≤ t.bytes := by
  induction h with
  | refl => exact Nat.le_refl _
  | pass _ ih => exact Nat.le_trans ih (Nat.le_add_right _ _)

theorem length_le (h : s.Reaches t) : t.rest.length ≤ s.rest.length := by
  induction h with
  | refl => exact Nat.le_refl _
  | pass _ ih => exact Nat.le_trans (Nat.le_succ _) ih

theorem antisymm (h : s.Reaches t) (h' : t.Reaches s) : t = s := by
  rcases h.eq_or_next with h | ⟨n, hn, h⟩
  · exact h
  · have hlt := bytes_lt_of_next? hn
    have hle := (h.trans h').bytes_le
    omega

theorem bytes_lt (h : s.Reaches t) (hne : t ≠ s) : s.bytes < t.bytes := by
  obtain ⟨n, hn, h⟩ := h.eq_or_next.resolve_left hne
  exact Nat.lt_of_lt_of_le (bytes_lt_of_next? hn) h.bytes_le

theorem length_lt (h : s.Reaches t) (hne : t ≠ s) : t.rest.length < s.rest.length := by
  obtain ⟨n, hn, h⟩ := h.eq_or_next.resolve_left hne
  exact Nat.lt_of_le_of_lt h.length_le (Nat.lt_of_succ_le (Nat.le_of_eq (length_of_next? hn)))

/-- The bytes before it tell a place from those that it comes after. -/
theorem eq_of_bytes_eq (h : s.Reaches t) (hbytes : t.bytes = s.bytes) : t = s := by
  refine Decidable.byContradiction fun hne => ?_
  exact absurd hbytes (Nat.ne_of_gt (h.bytes_lt hne))

theorem forward_eq (h : s.Reaches t) : forward s.bytes s.before t.bytes s.rest = t := by
  obtain ⟨bytes, before, rest⟩ := s
  induction rest generalizing bytes before with
  | nil =>
      rcases h.eq_or_next with rfl | ⟨n, hn, -⟩
      · rfl
      · cases hn
  | cons c rest ih =>
      rw [forward]
      rcases h.eq_or_next with rfl | ⟨n, hn, h⟩
      · rw [if_pos (Nat.le_refl _)]
      · have hlt := bytes_lt_of_next? hn
        have hle := h.bytes_le
        cases hn
        rw [if_neg (by dsimp only at *; omega)]
        exact ih _ _ h

end Reaches

/-! ## Boundaries -/

/-- What stands between two places. -/
theorem Reaches.exists_between (h : s.Reaches t) :
    ∃ part, s.rest = part ++ t.rest ∧ t.bytes = s.bytes + (String.ofList part).utf8ByteSize := by
  induction h with
  | refl => exact ⟨[], rfl, rfl⟩
  | @pass bytes before c rest _ ih =>
      obtain ⟨passed, hrest, hbytes⟩ := ih
      refine ⟨passed ++ [c], ?_, ?_⟩
      · rw [hrest, List.append_assoc]
        rfl
      · rw [String.ofList_append, String.utf8ByteSize_append, ← String.singleton_eq_ofList,
          String.utf8ByteSize_singleton, ← Nat.add_assoc, ← hbytes]

/-- The places after the start of a text are on boundaries of its characters. -/
theorem Reaches.isValid {text : String} (h : (start text.toList).Reaches t) :
    String.Pos.Raw.IsValid text ⟨t.bytes⟩ := by
  obtain ⟨before, htext, hbytes⟩ := h.exists_between
  refine String.Pos.Raw.isValid_iff_exists_append.mpr
    ⟨String.ofList before, String.ofList t.rest, ?_, ?_⟩
  · rw [← String.ofList_append, ← htext, start, String.ofList_toList]
  · rw [hbytes, start, Nat.zero_add]
    rfl

end Spot

end CaptureTypes.Pattern
