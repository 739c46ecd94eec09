/-
# When two names become one

A name is legalized by its first character, unless it is a numeral: then a
word is put before it.  What comes out is settled.  Its first character is a
capital, or one that has none, and it is no numeral, so legalizing it again
leaves it as it is (`legalizeChars_of_isSettled`).

That a capital has no further capital is a fact about the whole mapping, and
not about one alphabet: no code point that the mapping moves is one to which
it moves another (`bits_moved_and_reached`).  Evaluation compares the two
sets as the bits of two numbers.

Names meet in two ways.  Two that are no numerals meet if they are the same
with the first character in upper case, which may be three characters long.
A numeral meets only the two words that name its group, because no other
character than the two of that letter has `G` alone as its upper case.
-/
import CaptureTypes.Proofs.PlainName

namespace CaptureTypes

/-! ## Sets of numbers as bits -/

/-- The number whose bits are given. -/
def bits (ns : List Nat) : Nat := ns.foldr (fun n m => 1 <<< n ||| m) 0

theorem testBit_bits {ns : List Nat} {n : Nat} : (bits ns).testBit n = true ↔ n ∈ ns := by
  induction ns with
  | nil => simp [bits]
  | cons k ns ih =>
      have hcons : bits (k :: ns) = 1 <<< k ||| bits ns := rfl
      rw [hcons, Nat.testBit_or, Nat.one_shiftLeft, Nat.testBit_two_pow, Bool.or_eq_true, decide_eq_true_eq, ih,
        List.mem_cons, eq_comm]

theorem notMem_of_bits_and_eq_zero {ms ns : List Nat} (h : bits ms &&& bits ns = 0) {n : Nat}
    (hn : n ∈ ns) : n ∉ ms := by
  intro hm
  have hboth : (bits ms &&& bits ns).testBit n = true := by
    rw [Nat.testBit_and, testBit_bits.mpr hm, testBit_bits.mpr hn, Bool.and_true]
  rw [h, Nat.zero_testBit] at hboth
  cases hboth

namespace Text.Uppercase

/-! ## Upper case of upper case -/

/-- The code points of a stretch. -/
def Stretch.points (s : Stretch) : List Nat :=
  (List.range ((s.last - s.first) / s.step + 1)).map fun i => s.first + s.step * i

theorem Stretch.mem_points {s : Stretch} {n : Nat} (h : s.holds n = true) : n ∈ s.points := by
  simp only [holds, Bool.and_eq_true, decide_eq_true_eq, beq_iff_eq] at h
  obtain ⟨⟨hfirst, hlast⟩, hstep⟩ := h
  refine List.mem_map.mpr ⟨(n - s.first) / s.step, List.mem_range.mpr ?_, ?_⟩
  · exact Nat.lt_succ_of_le (Nat.div_le_div_right (by omega))
  · have hdiv := Nat.div_add_mod (n - s.first) s.step
    omega

/-- The code points that the mapping moves. -/
def moved : List Nat := stretches.flatMap Stretch.points ++ expansions.map Prod.fst

/-- The code points to which the mapping moves one. -/
def reached : List Nat :=
  stretches.flatMap (fun s => s.points.map fun (n : Nat) => ((n : Int) + s.shift).toNat) ++
    expansions.flatMap Prod.snd

/-- No code point is both. -/
theorem bits_moved_and_reached : bits moved &&& bits reached = 0 := by decide +kernel

theorem upperPoints_of_notMem_moved {n : Nat} (h : n ∉ moved) : upperPoints n = [n] := by
  have hexpansion : expansions.lookup n = none := by
    refine Pattern.lookup_eq_none_iff_notMem.mpr fun hmem => ?_
    exact h (List.mem_append_right _ hmem)
  have hstretch : stretches.find? (·.holds n) = none := by
    refine List.find?_eq_none.mpr fun s hs hholds => ?_
    exact h (List.mem_append_left _ (List.mem_flatMap.mpr ⟨s, hs, Stretch.mem_points hholds⟩))
  unfold upperPoints
  rw [hexpansion]
  dsimp only
  rw [hstretch]

/-- Where the mapping finds what it makes of a code point. -/
theorem upperPoints_cases (n : Nat) :
    (∃ points, (n, points) ∈ expansions ∧ upperPoints n = points) ∨
      (∃ s ∈ stretches, s.holds n = true ∧ upperPoints n = [((n : Int) + s.shift).toNat]) ∨
      upperPoints n = [n] := by
  unfold upperPoints
  split
  · rename_i points hlookup
    exact .inl ⟨points, mem_of_lookup_eq_some hlookup, rfl⟩
  · split
    · rename_i s hfind
      have hholds : s.holds n = true := by simpa using List.find?_some hfind
      exact .inr (.inl ⟨s, List.mem_of_find?_eq_some hfind, hholds, rfl⟩)
    · exact .inr (.inr rfl)

/-- A code point that is reached stays, and so does one that never moved. -/
theorem upperPoints_of_mem_upperPoints {m n : Nat} (h : m ∈ upperPoints n) :
    upperPoints m = [m] := by
  have hstays : m ∈ reached → upperPoints m = [m] := by
    intro hm
    exact upperPoints_of_notMem_moved (notMem_of_bits_and_eq_zero bits_moved_and_reached hm)
  rcases upperPoints_cases n with ⟨points, hmem, rfl⟩ | ⟨s, hs, hholds, hpoints⟩ | hpoints
  · exact hstays (List.mem_append_right _ (List.mem_flatMap.mpr ⟨_, hmem, h⟩))
  · rw [hpoints] at h
    obtain rfl := List.mem_singleton.mp h
    refine hstays (List.mem_append_left _ (List.mem_flatMap.mpr ⟨s, hs, ?_⟩))
    exact List.mem_map_of_mem (Stretch.mem_points hholds)
  · rw [hpoints] at h
    obtain rfl := List.mem_singleton.mp h
    exact hpoints

/-- **What is in upper case is its own upper case**, every character of a longer one included. -/
theorem upper_of_mem_upper {c d : Char} (h : d ∈ upper c) : upper d = [d] := by
  obtain ⟨m, hm, rfl⟩ := List.mem_map.mp h
  rcases toNat_ofNat m with hd | hd
  · rw [upper, hd, upperPoints_of_mem_upperPoints hm, List.map_singleton]
  · rw [hd]
    decide +kernel

/-- The digits of ASCII. -/
def asciiDigits : CharSet := ⟨[(0x30, 0x39)]⟩

theorem contains_asciiDigits {c : Char} (h : c.isDigit = true) : asciiDigits.contains c = true := by
  simp only [Char.isDigit, Bool.and_eq_true, decide_eq_true_eq, ge_iff_le,
    UInt32.le_iff_toNat_le] at h
  exact CharSet.has_iff.mpr ⟨(0x30, 0x39), List.mem_cons_self, h⟩

/-- A digit in upper case was that digit before. -/
theorem eq_of_isDigit_of_mem_upper {c d : Char} (h : d ∈ upper c) (hd : d.isDigit = true) :
    d = c := by
  have hdisjoint : capitals.isDisjoint asciiDigits = true := by decide +kernel
  rcases mem_upper h with hcapital | rfl | ⟨rfl, -⟩
  · have hno : asciiDigits.contains d = false := CharSet.has_eq_false_of_isDisjoint hdisjoint hcapital
    rw [contains_asciiDigits hd] at hno
    cases hno
  · cases hd
  · rfl

/-- What is moved to `G` alone is ASCII: no expansion is this letter, and each stretch either lies
before the end of ASCII or is moved to what comes after the letter. -/
theorem lt_of_upperPoints_eq_G {n : Nat} (h : upperPoints n = [0x47]) : n < 128 := by
  have hexpansions : (expansions.all fun e => e.2 != [0x47]) = true := by decide +kernel
  have hstretches : (stretches.all fun s =>
      decide (s.last < 128) || decide (0x47 < s.image.1)) = true := by decide +kernel
  rcases upperPoints_cases n with ⟨points, hmem, heq⟩ | ⟨s, hs, hholds, heq⟩ | heq
  · have hne := List.all_eq_true.mp hexpansions _ hmem
    rw [← heq, h] at hne
    cases hne
  · have hbound := List.all_eq_true.mp hstretches s hs
    simp only [Bool.or_eq_true, decide_eq_true_eq] at hbound
    simp only [Stretch.image] at hbound
    simp only [Stretch.holds, Bool.and_eq_true, decide_eq_true_eq] at hholds
    rw [h, List.cons.injEq] at heq
    omega
  · rw [h, List.cons.injEq] at heq
    omega

/-- The characters with `G` alone as their upper case. -/
theorem upper_eq_G_iff {c : Char} : upper c = ['G'] ↔ c = 'G' ∨ c = 'g' := by
  constructor
  · intro h
    obtain ⟨m, hpoints, hm⟩ := List.map_eq_singleton_iff.mp h
    obtain rfl : m = 0x47 := by
      rcases toNat_ofNat m with hd | hd
      · rw [← hd, hm]
        rfl
      · rw [hd] at hm
        cases hm
    rw [upper_of_ascii (lt_of_upperPoints_eq_G hpoints), List.cons.injEq] at h
    exact (toUpper_eq_iff (by decide)).mp h.1
  · rintro (rfl | rfl)
    · decide +kernel
    · decide +kernel

end Text.Uppercase

/-! ## The two ways of a name -/

/-- A numeral: one digit or more, and nothing else. -/
def IsNumeral (cs : List Char) : Prop := cs ≠ [] ∧ ∀ c ∈ cs, c.isDigit = true

instance (cs : List Char) : Decidable (IsNumeral cs) :=
  inferInstanceAs (Decidable (cs ≠ [] ∧ ∀ c ∈ cs, c.isDigit = true))

/-- A name with its first character in upper case. -/
def upperFirst : List Char → List Char
  | [] => []
  | c :: rest => Text.Uppercase.upper c ++ rest

theorem isNumeral_cons {c : Char} {rest : List Char} :
    IsNumeral (c :: rest) ↔ (c :: rest).all Char.isDigit = true := by
  rw [IsNumeral, List.all_eq_true]
  exact and_iff_right (List.cons_ne_nil c rest)

/-- A numeral has a word put before it; of any other name the first character is raised. -/
theorem legalizeChars_eq (cs : List Char) :
    legalizeChars cs = if IsNumeral cs then numberedGroupWord ++ cs else upperFirst cs := by
  cases cs with
  | nil => rfl
  | cons c rest =>
      rw [legalizeChars]
      by_cases h : IsNumeral (c :: rest)
      · rw [if_pos h, if_pos (isNumeral_cons.mp h)]
      · rw [if_neg h, if_neg fun hall => h (isNumeral_cons.mpr hall), upperFirst]

theorem legalizeChars_of_isNumeral {cs : List Char} (h : IsNumeral cs) :
    legalizeChars cs = numberedGroupWord ++ cs := by
  rw [legalizeChars_eq, if_pos h]

theorem legalizeChars_of_not_isNumeral {cs : List Char} (h : ¬ IsNumeral cs) :
    legalizeChars cs = upperFirst cs := by
  rw [legalizeChars_eq, if_neg h]

/-- What follows the first character is kept at the end. -/
theorem tail_suffix_legalizeChars (cs : List Char) : cs.tail <:+ legalizeChars cs := by
  rw [legalizeChars_eq]
  split
  · exact (List.tail_suffix cs).trans (List.suffix_append _ cs)
  · cases cs with
    | nil => exact List.suffix_refl []
    | cons c rest => exact List.suffix_append _ rest

/-! ## Legalizing again -/

/-- A settled name: it is no numeral, and its first character is its own upper case. -/
structure IsSettled (cs : List Char) : Prop where
  noNumeral : ¬ IsNumeral cs
  raised : ∀ c ∈ cs.head?, Text.Uppercase.upper c = [c]

theorem legalizeChars_of_isSettled {cs : List Char} (h : IsSettled cs) : legalizeChars cs = cs := by
  rw [legalizeChars_of_not_isNumeral h.noNumeral]
  cases cs with
  | nil => rfl
  | cons c rest => rw [upperFirst, h.raised c rfl, List.singleton_append]

/-- **What comes out is settled.**  A numeral begins with a letter now; any other name begins with
what is in upper case, and if all of it were digits, its first one would have been one before. -/
theorem isSettled_legalizeChars (cs : List Char) : IsSettled (legalizeChars cs) := by
  by_cases hcs : IsNumeral cs
  · rw [legalizeChars_of_isNumeral hcs]
    refine ⟨fun h => ?_, fun d hd => ?_⟩
    · have hG : 'G'.isDigit = true := h.2 'G' List.mem_cons_self
      cases hG
    · obtain rfl : 'G' = d := by simpa [numberedGroupWord] using hd
      exact Text.Uppercase.upper_eq_G_iff.mpr (.inl rfl)
  · rw [legalizeChars_of_not_isNumeral hcs]
    cases cs with
    | nil => exact ⟨hcs, nofun⟩
    | cons c rest =>
        obtain ⟨d, more, hupper⟩ :=
          List.exists_cons_of_ne_nil (Text.Uppercase.upper_ne_nil c)
        have hd : d ∈ Text.Uppercase.upper c := hupper ▸ List.mem_cons_self
        rw [upperFirst]
        refine ⟨fun h => hcs ⟨List.cons_ne_nil c rest, ?_⟩, fun e he => ?_⟩
        · intro e he
          rcases List.mem_cons.mp he with rfl | he
          · have hdigit : d.isDigit = true := h.2 d (List.mem_append_left rest hd)
            rwa [← Text.Uppercase.eq_of_isDigit_of_mem_upper hd hdigit]
          · exact h.2 e (List.mem_append_right _ he)
        · rw [hupper] at he
          obtain rfl : d = e := by simpa using he
          exact Text.Uppercase.upper_of_mem_upper hd

/-! ## Names that meet -/

/-- The two words that name the group of a numeral, in which only the first letter may differ. -/
def NamesGroupOf (numeral cs : List Char) : Prop :=
  IsNumeral numeral ∧ (cs = "Group".toList ++ numeral ∨ cs = "group".toList ++ numeral)

theorem NamesGroupOf.not_isNumeral {ds cs : List Char} (h : NamesGroupOf ds cs) :
    ¬ IsNumeral cs := by
  intro hcs
  rcases h.2 with rfl | rfl
  · have hG : 'G'.isDigit = true := hcs.2 'G' List.mem_cons_self
    cases hG
  · have hg : 'g'.isDigit = true := hcs.2 'g' List.mem_cons_self
    cases hg

/-- A numeral meets the two words that name its group, and no other name but a numeral.  The second
letter of the word is a small one, so it does not come from an upper case. -/
theorem upperFirst_eq_numbered_iff {ds cs : List Char} (hds : IsNumeral ds) :
    upperFirst cs = numberedGroupWord ++ ds ↔ NamesGroupOf ds cs := by
  constructor
  · intro h
    cases cs with
    | nil => cases h
    | cons c rest =>
        have hsmall : ∀ d ∈ Text.Uppercase.upper c,
            Text.Uppercase.smallLetters.contains d = false := by
          intro d hd
          exact Text.Uppercase.not_smallLetter_of_mem_upper hd
        rw [upperFirst] at h
        match hupper : Text.Uppercase.upper c with
        | [] => exact absurd hupper (Text.Uppercase.upper_ne_nil c)
        | [d] =>
            rw [hupper] at h
            cases h
            refine ⟨hds, (Text.Uppercase.upper_eq_G_iff.mp hupper).imp ?_ ?_⟩
            · rintro rfl
              rfl
            · rintro rfl
              rfl
        | d :: e :: more =>
            rw [hupper] at h hsmall
            obtain rfl : e = 'r' := by
              have htail := congrArg List.tail h
              exact (List.cons.inj htail).1
            have hr := hsmall 'r' (List.mem_cons_of_mem _ List.mem_cons_self)
            cases hr
  · rintro ⟨-, rfl | rfl⟩
    · have hG : Text.Uppercase.upper 'G' = ['G'] := Text.Uppercase.upper_eq_G_iff.mpr (.inl rfl)
      show Text.Uppercase.upper 'G' ++ _ = _
      rw [hG]
      rfl
    · have hg : Text.Uppercase.upper 'g' = ['G'] := Text.Uppercase.upper_eq_G_iff.mpr (.inr rfl)
      show Text.Uppercase.upper 'g' ++ _ = _
      rw [hg]
      rfl

/-- **When two names become one.** -/
theorem legalizeChars_eq_legalizeChars_iff (as bs : List Char) :
    legalizeChars as = legalizeChars bs ↔
      as = bs ∨ (¬ IsNumeral as ∧ ¬ IsNumeral bs ∧ upperFirst as = upperFirst bs) ∨
        NamesGroupOf as bs ∨ NamesGroupOf bs as := by
  by_cases ha : IsNumeral as
  · have hno : ¬ NamesGroupOf bs as := fun h => h.not_isNumeral ha
    rw [legalizeChars_of_isNumeral ha]
    by_cases hb : IsNumeral bs
    · have hno' : ¬ NamesGroupOf as bs := fun h => h.not_isNumeral hb
      rw [legalizeChars_of_isNumeral hb, List.append_cancel_left_eq]
      simp [ha, hno, hno']
    · have hne : as ≠ bs := fun h => hb (h ▸ ha)
      rw [legalizeChars_of_not_isNumeral hb, eq_comm, upperFirst_eq_numbered_iff ha]
      simp [ha, hne, hno]
  · rw [legalizeChars_of_not_isNumeral ha]
    by_cases hb : IsNumeral bs
    · have hno : ¬ NamesGroupOf as bs := fun h => ha h.1
      have hne : as ≠ bs := fun h => ha (h ▸ hb)
      rw [legalizeChars_of_isNumeral hb, upperFirst_eq_numbered_iff hb]
      simp [hb, hne, hno]
    · have hno : ¬ NamesGroupOf as bs := fun h => ha h.1
      have hno' : ¬ NamesGroupOf bs as := fun h => hb h.1
      rw [legalizeChars_of_not_isNumeral hb]
      constructor
      · intro h
        exact .inr (.inl ⟨ha, hb, h⟩)
      · rintro (rfl | ⟨-, -, h⟩ | h | h)
        · rfl
        · exact h
        · exact absurd h hno
        · exact absurd h hno'

theorem namesGroupOf_toList_iff {d name : String} :
    NamesGroupOf d.toList name.toList ↔
      IsNumeral d.toList ∧ (name = "Group" ++ d ∨ name = "group" ++ d) := by
  rw [NamesGroupOf, ← String.toList_append, ← String.toList_append, String.toList_inj,
    String.toList_inj]

/-- A number is named as its group is. -/
theorem legalize_toString (n : Nat) : legalize (toString n) = "Group" ++ toString n := by
  rw [numbered_eq, legalize, ← Text.ofList_decimal, String.toList_ofList, legalizeChars_decimal]
  rfl

/-- **Legalizing settles a name.**  A second time it changes nothing, and what follows the first
character stands at the end as it was.  Two names become one iff they are the same, or neither is a
numeral and they are the same with the first character in upper case, or one is a numeral and the
other is the word for its group, with a capital or without.  So two numbers never meet. -/
theorem legalize_settles :
    (∀ s : String, legalize (legalize s) = legalize s ∧ s.toList.tail <:+ (legalize s).toList) ∧
    (∀ a b : String, legalize a = legalize b ↔
      a = b ∨
      (¬ IsNumeral a.toList ∧ ¬ IsNumeral b.toList ∧
        upperFirst a.toList = upperFirst b.toList) ∨
      (IsNumeral a.toList ∧ (b = "Group" ++ a ∨ b = "group" ++ a)) ∨
      (IsNumeral b.toList ∧ (a = "Group" ++ b ∨ a = "group" ++ b))) ∧
    ∀ i j : Nat, legalize (toString i) = legalize (toString j) ↔ i = j := by
  refine ⟨fun s => ⟨?_, ?_⟩, fun a b => ?_, fun i j => ?_⟩
  · rw [legalize, legalize, String.toList_ofList,
      legalizeChars_of_isSettled (isSettled_legalizeChars s.toList)]
  · rw [legalize, String.toList_ofList]
    exact tail_suffix_legalizeChars s.toList
  · rw [legalize, legalize, String.ofList_inj, legalizeChars_eq_legalizeChars_iff,
      namesGroupOf_toList_iff, namesGroupOf_toList_iff, String.toList_inj]
  · rw [legalize_toString, legalize_toString]
    exact ⟨numbered_inj, fun h => h ▸ rfl⟩

/-- A ligature meets its letters. -/
example : legalize "ﬁle" = legalize "FIle" := by decide +kernel

end CaptureTypes
