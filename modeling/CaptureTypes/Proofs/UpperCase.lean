/-
# What upper case can produce

The mapping to upper case moves whole stretches of letters and expands some
others.  `capitals` is the set of all code points that it moves to; a
character that is not moved is its own upper case, and then it belongs to no
stretch (`mem_upper`).  So a statement about every character in upper case
is one about two lists of intervals, which evaluation decides.

The statement needed for the names of accessors: no small ASCII letter is in
upper case, whatever character it comes from
(`not_smallLetter_of_mem_upper`).
-/
import CaptureTypes.Text.Uppercase
import CaptureTypes.Unicode.CharSet

namespace CaptureTypes

namespace CharSet

/-- Whether no interval of one set meets one of the other. -/
def isDisjoint (s t : CharSet) : Bool :=
  s.ranges.all fun r => t.ranges.all fun q => decide (r.2 < q.1) || decide (q.2 < r.1)

theorem has_iff {s : CharSet} {n : Nat} : s.has n = true ↔ ∃ r ∈ s.ranges, r.1 ≤ n ∧ n ≤ r.2 := by
  simp [has, List.any_eq_true]

theorem has_eq_false_of_isDisjoint {s t : CharSet} {n : Nat} (h : s.isDisjoint t = true)
    (hs : s.has n = true) : t.has n = false := by
  obtain ⟨r, hr, hr1, hr2⟩ := has_iff.mp hs
  refine Bool.eq_false_iff.mpr fun ht => ?_
  obtain ⟨q, hq, hq1, hq2⟩ := has_iff.mp ht
  have hrq := List.all_eq_true.mp (List.all_eq_true.mp h r hr) q hq
  simp only [Bool.or_eq_true, decide_eq_true_eq] at hrq
  omega

/-- Whether every interval of one set lies in one of the other. -/
def isWithin (s t : CharSet) : Bool :=
  s.ranges.all fun r => t.ranges.any fun q => decide (q.1 ≤ r.1) && decide (r.2 ≤ q.2)

theorem has_of_isWithin {s t : CharSet} {n : Nat} (h : s.isWithin t = true)
    (hs : s.has n = true) : t.has n = true := by
  obtain ⟨r, hr, hr1, hr2⟩ := has_iff.mp hs
  obtain ⟨q, hq, hrq⟩ := List.any_eq_true.mp (List.all_eq_true.mp h r hr)
  simp only [Bool.and_eq_true, decide_eq_true_eq] at hrq
  exact has_iff.mpr ⟨q, hq, Nat.le_trans hrq.1 hr1, Nat.le_trans hr2 hrq.2⟩

end CharSet

namespace Text.Uppercase

/-- The interval to which a stretch is moved. -/
def Stretch.image (s : Stretch) : Nat × Nat :=
  (((s.first : Int) + s.shift).toNat, ((s.last : Int) + s.shift).toNat)

/-- All code points to which the mapping moves one. -/
def capitals : CharSet :=
  ⟨stretches.map Stretch.image ++ expansions.flatMap fun e => e.2.map fun n => (n, n)⟩

theorem has_capitals_of_stretch {s : Stretch} (hs : s ∈ stretches) {n : Nat}
    (h : s.holds n = true) : capitals.has ((n : Int) + s.shift).toNat = true := by
  simp only [Stretch.holds, Bool.and_eq_true, decide_eq_true_eq] at h
  refine CharSet.has_iff.mpr ⟨s.image, List.mem_append_left _ (List.mem_map_of_mem hs), ?_⟩
  simp only [Stretch.image]
  omega

theorem has_capitals_of_expansion {n : Nat} {points : List Nat} (h : (n, points) ∈ expansions)
    {m : Nat} (hm : m ∈ points) : capitals.has m = true := by
  refine CharSet.has_iff.mpr ⟨(m, m), List.mem_append_right _ ?_, Nat.le_refl m, Nat.le_refl m⟩
  exact List.mem_flatMap.mpr ⟨(n, points), h, List.mem_map_of_mem hm⟩

theorem mem_of_lookup_eq_some {α β : Type} [BEq α] [LawfulBEq α] {a : α} {b : β}
    {l : List (α × β)} (h : l.lookup a = some b) : (a, b) ∈ l := by
  obtain ⟨before, after, hl, -⟩ := List.lookup_eq_some_iff.mp h
  simp [hl]

/-- A code point is moved to a capital, or it stays and belongs to no stretch. -/
theorem mem_upperPoints {m n : Nat} (h : m ∈ upperPoints n) :
    capitals.has m = true ∨ (m = n ∧ ∀ s ∈ stretches, s.holds n = false) := by
  unfold upperPoints at h
  split at h
  · rename_i points hpoints
    exact .inl (has_capitals_of_expansion (mem_of_lookup_eq_some hpoints) h)
  · split at h
    · rename_i s hs
      rw [List.mem_singleton.mp h]
      have hholds : s.holds n = true := by simpa using List.find?_some hs
      exact .inl (has_capitals_of_stretch (List.mem_of_find?_eq_some hs) hholds)
    · rename_i hnone
      refine .inr ⟨List.mem_singleton.mp h, fun s hs => ?_⟩
      simpa using List.find?_eq_none.mp hnone s hs

theorem toNat_ofNat (n : Nat) : (Char.ofNat n).toNat = n ∨ Char.ofNat n = '\x00' := by
  by_cases h : n.isValidChar
  · refine .inl ?_
    rw [show Char.ofNat n = Char.ofNatAux n h from dif_pos h]
    rfl
  · exact .inr (dif_neg h)

/-- The same of characters; a number that is no code point would stand for the null
character. -/
theorem mem_upper {c d : Char} (h : d ∈ upper c) :
    capitals.contains d = true ∨ d = '\x00' ∨
      (d = c ∧ ∀ s ∈ stretches, s.holds c.toNat = false) := by
  obtain ⟨m, hm, rfl⟩ := List.mem_map.mp h
  rcases toNat_ofNat m with hd | hd
  · rcases mem_upperPoints hm with hcap | ⟨rfl, hnone⟩
    · exact .inl (by rw [CharSet.contains, hd]; exact hcap)
    · exact .inr (.inr ⟨Char.ofNat_toNat c, hnone⟩)
  · exact .inr (.inl hd)

theorem upper_ne_nil (c : Char) : upper c ≠ [] := by
  have hnonempty : (expansions.all fun e => !e.2.isEmpty) = true := by decide +kernel
  have hpoints : upperPoints c.toNat ≠ [] := by
    unfold upperPoints
    split
    · rename_i points hpoints
      have := List.all_eq_true.mp hnonempty _ (mem_of_lookup_eq_some hpoints)
      simpa using this
    · split <;> simp
  simpa [upper] using hpoints

/-! ## Small letters -/

/-- The small letters of ASCII. -/
def smallLetters : CharSet := ⟨[(0x61, 0x7A)]⟩

theorem isDisjoint_capitals_smallLetters : capitals.isDisjoint smallLetters = true := by
  decide +kernel

/-- **No small ASCII letter is in upper case.** One that were would be moved there, but no
capital is one, or would stay, but all of them are in a stretch. -/
theorem not_smallLetter_of_mem_upper {c d : Char} (h : d ∈ upper c) :
    smallLetters.contains d = false := by
  rcases mem_upper h with hcap | rfl | ⟨rfl, hnone⟩
  · exact CharSet.has_eq_false_of_isDisjoint isDisjoint_capitals_smallLetters hcap
  · decide
  · have hfirst : (⟨0x61, 0x7A, 1, -32⟩ : Stretch) ∈ stretches := by decide +kernel
    have := hnone _ hfirst
    simp only [Stretch.holds, Nat.mod_one, BEq.rfl, Bool.and_true] at this
    simpa [smallLetters, CharSet.contains, CharSet.has] using this

theorem upper_of_smallLetter : ∀ n, n < 26 →
    upper (Char.ofNat (0x61 + n)) = [(Char.ofNat (0x61 + n)).toUpper] := by decide +kernel

theorem lookup_expansions_of_ascii {n : Nat} (h : n < 128) : expansions.lookup n = none := by
  have hkeys : (expansions.all fun e => decide (128 ≤ e.1)) = true := by decide +kernel
  refine List.lookup_eq_none_iff.mpr fun e he => ?_
  have := List.all_eq_true.mp hkeys e he
  simp only [decide_eq_true_eq] at this
  exact bne_iff_ne.mpr (by omega)

/-- The capital of an ASCII character is the one that the library knows.  Of the stretches only
that of the small letters reaches down to ASCII. -/
theorem upper_of_ascii {c : Char} (h : c.toNat < 128) : upper c = [c.toUpper] := by
  by_cases hc : 0x61 ≤ c.toNat ∧ c.toNat ≤ 0x7A
  · have := upper_of_smallLetter (c.toNat - 0x61) (by omega)
    rw [show 0x61 + (c.toNat - 0x61) = c.toNat by omega, Char.ofNat_toNat] at this
    exact this
  · have hfirst : (stretches.all fun s => decide (s.last ≤ 0x7A ∧ 0x61 ≤ s.first ∨ 128 ≤ s.first))
        = true := by decide +kernel
    have hnone : stretches.find? (·.holds c.toNat) = none := by
      refine List.find?_eq_none.mpr fun s hs => ?_
      have := List.all_eq_true.mp hfirst s hs
      simp only [decide_eq_true_eq] at this
      simp only [Stretch.holds, Bool.and_eq_true, decide_eq_true_eq, not_and]
      omega
    have htoUpper : c.toUpper = c := by
      have hrange : ¬ (c.val ≥ 97 ∧ c.val ≤ 122) := fun hr =>
        hc ⟨UInt32.le_iff_toNat_le.mp hr.1, UInt32.le_iff_toNat_le.mp hr.2⟩
      exact dif_neg hrange
    have hpoints : upperPoints c.toNat = [c.toNat] := by
      unfold upperPoints
      rw [lookup_expansions_of_ascii h]
      dsimp only
      rw [hnone]
    rw [upper, hpoints, htoUpper, List.map_singleton, Char.ofNat_toNat]

end Text.Uppercase

end CaptureTypes
