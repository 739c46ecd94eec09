/-
# Groups with names of ASCII

A name of ASCII letters, digits and low lines is legalized by its first
letter alone, and is then a word of ASCII again.  So everything that is
asked of the identifier of a group is a question about its name: whether
the identifier is a keyword or a reserved name, whether two identifiers are
the same, and whether one is that of a group without a name.
-/
import CaptureTypes.Emission.Accessor
import CaptureTypes.Proofs.Identifier

namespace CaptureTypes

open Token (IsPlainWord isPlainLetter isPlainChar)
open Text.Uppercase

/-! ## Capitals of ASCII -/

theorem val_toLower {d : Char} (h : 'A'.val ≤ d.val ∧ d.val ≤ 'Z'.val) :
    d.toLower.val = d.val + ('a'.val - 'A'.val) := by
  delta Char.toLower
  rw [dif_pos h]

theorem val_toUpper {c : Char} (h : 'a'.val ≤ c.val ∧ c.val ≤ 'z'.val) :
    c.toUpper.val = c.val + ('A'.val - 'a'.val) := by
  delta Char.toUpper
  rw [dif_pos h]

theorem toUpper_eq_self {c : Char} (h : ¬ ('a'.val ≤ c.val ∧ c.val ≤ 'z'.val)) :
    c.toUpper = c := dif_neg h

/-- A character whose capital is a given one is that capital or its small letter. -/
theorem toUpper_eq_iff {c d : Char} (hd : d.isUpper = true) :
    c.toUpper = d ↔ c = d ∨ c = d.toLower := by
  have hA : 'A'.val.toNat = 65 := rfl
  have hZ : 'Z'.val.toNat = 90 := rfl
  have ha : 'a'.val.toNat = 97 := rfl
  have hz : 'z'.val.toNat = 122 := rfl
  have hcapital : 'A'.val ≤ d.val ∧ d.val ≤ 'Z'.val := of_decide_eq_true hd
  rw [Char.ext_iff, Char.ext_iff, Char.ext_iff, val_toLower hcapital]
  rw [UInt32.le_iff_toNat_le, UInt32.le_iff_toNat_le, hA, hZ] at hcapital
  by_cases hc : 'a'.val ≤ c.val ∧ c.val ≤ 'z'.val
  · rw [val_toUpper hc]
    rw [UInt32.le_iff_toNat_le, UInt32.le_iff_toNat_le, ha, hz] at hc
    simp only [← UInt32.toNat_inj, UInt32.toNat_add, UInt32.toNat_sub, hA, ha]
    omega
  · rw [toUpper_eq_self hc]
    rw [UInt32.le_iff_toNat_le, UInt32.le_iff_toNat_le, ha, hz] at hc
    simp only [← UInt32.toNat_inj, UInt32.toNat_add, UInt32.toNat_sub, hA, ha]
    omega

/-- What holds of the first 128 characters holds of a letter or low line of ASCII. -/
theorem of_isPlainLetter {p : Char → Prop} (htable : ∀ n, n < 128 → p (Char.ofNat n)) {c : Char}
    (h : isPlainLetter c = true) : p c := by
  have hplain : isPlainChar c = true := by rw [isPlainChar, h, Bool.true_or]
  obtain ⟨r, hr, -, hle⟩ := CharSet.has_iff.mp (Token.contains_plainChars hplain)
  have hascii : ∀ r ∈ Token.plainChars.ranges, r.2 < 128 := by decide
  have := htable c.toNat (Nat.lt_of_le_of_lt hle (hascii r hr))
  rwa [Char.ofNat_toNat] at this

/-! ## The identifier of a group with a name -/

/-- A name with its first character as a capital. -/
def capitalized (name : String) : String :=
  match name.toList with
  | [] => name
  | c :: rest => String.ofList (c.toUpper :: rest)

theorem capitalized_eq {name : String} {c : Char} {rest : List Char}
    (h : name.toList = c :: rest) : capitalized name = String.ofList (c.toUpper :: rest) := by
  rw [capitalized, h]

theorem exists_toList {name : String} (h : IsPlainWord name.toList) :
    ∃ c rest, name.toList = c :: rest ∧ isPlainLetter c = true := by
  match hname : name.toList with
  | [] => exact (hname ▸ h).elim
  | c :: rest => exact ⟨c, rest, rfl, (hname ▸ h).1⟩

/-- A name of ASCII is legalized by its first letter. -/
theorem legalize_plain {name : String} (h : IsPlainWord name.toList) :
    legalize name = capitalized name := by
  obtain ⟨c, rest, hname, hc⟩ := exists_toList h
  have hascii : c.toNat < 128 := of_isPlainLetter (p := fun c => c.toNat < 128) (by decide) hc
  have hdigit : c.isDigit = false :=
    of_isPlainLetter (p := fun c => isPlainLetter c = true → c.isDigit = false) (by decide) hc hc
  rw [legalize, capitalized_eq hname, hname, legalizeChars, List.all_cons, hdigit,
    upper_of_ascii hascii]
  rfl

theorem isPlainWord_capitalized {name : String} (h : IsPlainWord name.toList) :
    IsPlainWord (capitalized name).toList := by
  obtain ⟨c, rest, hname, hc⟩ := exists_toList h
  have hupper : isPlainLetter c.toUpper = true :=
    of_isPlainLetter (p := fun c => isPlainLetter c = true → isPlainLetter c.toUpper = true)
      (by decide) hc hc
  rw [capitalized_eq hname, String.toList_ofList]
  exact ⟨hupper, (hname ▸ h).2⟩

/-- The names that become a given word with a capital at its front. -/
theorem capitalized_eq_iff {name : String} (h : IsPlainWord name.toList) {d : Char}
    (hd : d.isUpper = true) (more : List Char) :
    capitalized name = String.ofList (d :: more) ↔
      name = String.ofList (d :: more) ∨ name = String.ofList (d.toLower :: more) := by
  obtain ⟨c, rest, hname, -⟩ := exists_toList h
  rw [capitalized_eq hname, String.ofList_inj, List.cons.injEq, toUpper_eq_iff hd,
    ← String.toList_inj, ← String.toList_inj, hname, String.toList_ofList, String.toList_ofList,
    List.cons.injEq, List.cons.injEq]
  exact or_and_right

/-- Two names differ only in the case of their first letter. -/
def DifferInCase (m n : String) : Prop :=
  ∃ c d rest, m.toList = c :: rest ∧ n.toList = d :: rest ∧ c ≠ d ∧ c.toUpper = d.toUpper

/-- Two names have one identifier iff they are the same but for the case of the first letter. -/
theorem capitalized_inj {m n : String} (hm : IsPlainWord m.toList) (hn : IsPlainWord n.toList) :
    capitalized m = capitalized n ↔ m = n ∨ DifferInCase m n := by
  obtain ⟨c, rest, hmc, -⟩ := exists_toList hm
  obtain ⟨d, more, hnd, -⟩ := exists_toList hn
  rw [capitalized_eq hmc, capitalized_eq hnd, String.ofList_inj, List.cons.injEq]
  constructor
  · rintro ⟨hupper, rfl⟩
    by_cases hcd : c = d
    · exact .inl (String.toList_inj.mp (by rw [hmc, hnd, hcd]))
    · exact .inr ⟨c, d, rest, hmc, hnd, hcd, hupper⟩
  · rintro (rfl | ⟨c', d', rest', hmc', hnd', -, hupper⟩)
    · cases hmc.symm.trans hnd
      exact ⟨rfl, rfl⟩
    · cases hmc.symm.trans hmc'
      cases hnd.symm.trans hnd'
      exact ⟨hupper, rfl⟩

theorem beginsSmall_capitalized {name : String} (h : IsPlainWord name.toList) :
    beginsSmall (capitalized name) = false := by
  obtain ⟨c, rest, hname, hc⟩ := exists_toList h
  rw [capitalized_eq hname, beginsSmall, String.toList_ofList]
  exact of_isPlainLetter (p := fun c => smallLetters.contains c.toUpper = false) (by decide) hc

/-- The names that become the low line. -/
theorem capitalized_eq_lowLine {name : String} (h : IsPlainWord name.toList) :
    capitalized name = "_" ↔ name = "_" := by
  obtain ⟨c, rest, hname, hc⟩ := exists_toList h
  have hupper : c.toUpper = '_' ↔ c = '_' :=
    of_isPlainLetter (p := fun c => c.toUpper = '_' ↔ c = '_') (by decide) hc
  have hlowLine : "_" = String.ofList ['_'] := rfl
  rw [capitalized_eq hname, hlowLine, String.ofList_inj, ← String.toList_inj, hname,
    String.toList_ofList, List.cons.injEq, List.cons.injEq, hupper]

/-- The identifier of a name of ASCII is a name itself unless the name is one of three: all
other keywords begin with a small letter. -/
theorem isName_capitalized {name : String} (h : IsPlainWord name.toList) :
    Token.isName (capitalized name) = true ↔ name ≠ "self" ∧ name ≠ "Self" ∧ name ≠ "_" := by
  have hkeywords : ∀ word ∈ Token.keywords,
      beginsSmall word = true ∨ word = "Self" ∨ word = "_" := by decide
  have hself := capitalized_eq_iff h (d := 'S') rfl ['e', 'l', 'f']
  have hlowLine := capitalized_eq_lowLine h
  have hmem : capitalized name ∈ Token.keywords ↔
      capitalized name = "Self" ∨ capitalized name = "_" := by
    constructor
    · intro hmem
      rcases hkeywords _ hmem with hsmall | hword
      · rw [beginsSmall_capitalized h] at hsmall
        cases hsmall
      · exact hword
    · rintro (hword | hword)
      · rw [hword]
        decide
      · rw [hword]
        decide
  rw [Token.isName, Bool.not_eq_true', ← Bool.not_eq_true, List.contains_iff_mem, hmem, hlowLine,
    not_or]
  constructor
  · rintro ⟨hword, hline⟩
    exact ⟨fun e => hword (hself.mpr (.inr e)), fun e => hword (hself.mpr (.inl e)), hline⟩
  · rintro ⟨hsmall, hcapital, hline⟩
    exact ⟨fun e => (hself.mp e).elim hcapital hsmall, hline⟩

theorem isSome_name?_capitalized {name : String} (h : IsPlainWord name.toList) :
    (Token.name? (capitalized name)).isSome ↔ name ≠ "self" ∧ name ≠ "Self" ∧ name ≠ "_" := by
  rw [Token.name?_plain (isPlainWord_capitalized h), ← isName_capitalized h]
  cases Token.isName (capitalized name) <;> simp

/-- The names whose identifier is that of a constant. -/
theorem capitalized_mem_reservedNames {name : String} (h : IsPlainWord name.toList) :
    capitalized name ∈ Emission.reservedNames ↔
      name = "PATTERN" ∨ name = "pATTERN" ∨ name = "GROUP_COUNT" ∨ name = "gROUP_COUNT" := by
  have hpattern := capitalized_eq_iff h (d := 'P') rfl ['A', 'T', 'T', 'E', 'R', 'N']
  have hcount := capitalized_eq_iff h (d := 'G') rfl
    ['R', 'O', 'U', 'P', '_', 'C', 'O', 'U', 'N', 'T']
  rw [Emission.reservedNames, List.mem_cons, List.mem_singleton]
  exact (or_congr hpattern hcount).trans or_assoc

/-! ## The identifier of a group without a name -/

/-- The identifier of a group without a name, character by character. -/
theorem numbered_eq (index : Nat) :
    "Group" ++ toString index = String.ofList ('G' :: 'r' :: 'o' :: 'u' :: 'p' ::
      Text.decimal index) := by
  rw [← Text.ofList_decimal, ← String.toList_inj, String.toList_append, String.toList_ofList,
    String.toList_ofList, String.toList_ofList]
  rfl

theorem identifier_numbered (index : Nat) :
    (Group.of index none).identifier = "Group" ++ toString index := by
  rw [numbered_eq, ← String.toList_inj, Group.toList_identifier, Option.map_none, Option.getD_none,
    legalizeChars_decimal, String.toList_ofList]
  rfl

theorem isPlainWord_numbered (index : Nat) : IsPlainWord ("Group" ++ toString index).toList := by
  have hword : ['r', 'o', 'u', 'p'].all isPlainChar = true := rfl
  rw [numbered_eq, String.toList_ofList]
  refine ⟨rfl, fun d (hd : d ∈ ['r', 'o', 'u', 'p'] ++ Text.decimal index) => ?_⟩
  rcases List.mem_append.mp hd with hd | hd
  · exact List.all_eq_true.mp hword d hd
  · rw [isPlainChar, Text.isDigit_of_mem_decimal hd, Bool.or_true]

/-- The identifier of a group without a name differs from every word that does not begin like
it. -/
theorem numbered_ne (index : Nat) {word : String}
    (h : word.toList.take 5 ≠ ['G', 'r', 'o', 'u', 'p']) : "Group" ++ toString index ≠ word := by
  rintro rfl
  rw [numbered_eq, String.toList_ofList] at h
  exact h rfl

/-- The identifier of a group without a name is a name. -/
theorem isSome_name?_numbered (index : Nat) :
    (Token.name? ("Group" ++ toString index)).isSome := by
  have hkeywords : ∀ word ∈ Token.keywords, word.toList.take 5 ≠ ['G', 'r', 'o', 'u', 'p'] := by
    decide
  have hname : Token.isName ("Group" ++ toString index) = true := by
    rw [Token.isName, Bool.not_eq_true', ← Bool.not_eq_true, List.contains_iff_mem]
    exact fun hmem => numbered_ne index (hkeywords _ hmem) rfl
  rw [Token.name?_plain (isPlainWord_numbered index), hname]
  rfl

theorem numbered_not_reserved (index : Nat) :
    "Group" ++ toString index ∉ Emission.reservedNames := by
  have hreserved : ∀ word ∈ Emission.reservedNames,
      word.toList.take 5 ≠ ['G', 'r', 'o', 'u', 'p'] := by decide
  exact fun hmem => numbered_ne index (hreserved _ hmem) rfl

theorem numbered_inj {i j : Nat} (h : "Group" ++ toString i = "Group" ++ toString j) : i = j := by
  rw [numbered_eq, numbered_eq, String.ofList_inj] at h
  exact Text.decimal_injective (by simpa using h)

/-- The names that become the identifier of a group without one. -/
theorem capitalized_eq_numbered {name : String} (h : IsPlainWord name.toList) (index : Nat) :
    capitalized name = "Group" ++ toString index ↔
      name = "group" ++ toString index ∨ name = "Group" ++ toString index := by
  have hsmall : "group" ++ toString index = String.ofList ('g' :: 'r' :: 'o' :: 'u' :: 'p' ::
      Text.decimal index) := by
    rw [← Text.ofList_decimal, ← String.toList_inj, String.toList_append, String.toList_ofList,
      String.toList_ofList, String.toList_ofList]
    rfl
  rw [numbered_eq, hsmall, or_comm]
  exact capitalized_eq_iff h rfl _

end CaptureTypes
