/-
# The identifiers of groups

An identifier is the legalized name of a group or, without a name, its
number after the word "Group".  Whatever the name, in any script, the
identifier holds no separator and begins with no small ASCII letter
(`isIdentifier_of_mem_listFrom`).  The first fact lets it be found back in
the declaration as it is; the second keeps it apart from the methods that
every matcher type has.
-/
import CaptureTypes.Group
import CaptureTypes.Proofs.GroupList
import CaptureTypes.Proofs.Numeral
import CaptureTypes.Proofs.Word

namespace CaptureTypes

open Pattern (IsGroupName IsGroupList isNameChar)
open Text.Uppercase
open Token (IsSolid separators)

/-! ## Legalized names -/

/-- What every identifier is: a text without separators that begins with no small letter of
ASCII. -/
def IsIdentifier : List Char → Prop
  | [] => False
  | c :: rest => IsSolid (c :: rest) ∧ smallLetters.contains c = false

theorem IsIdentifier.solid {cs : List Char} (h : IsIdentifier cs) : IsSolid cs := by
  cases cs with
  | nil => exact h.elim
  | cons c rest => exact h.1

/-- Whether a name begins with a small letter of ASCII. -/
def beginsSmall (name : String) : Bool :=
  match name.toList with
  | [] => false
  | c :: _ => smallLetters.contains c

theorem beginsSmall_of_isIdentifier {name : String} (h : IsIdentifier name.toList) :
    beginsSmall name = false := by
  unfold beginsSmall
  split
  · rfl
  · rename_i c rest heq
    exact (heq ▸ h).2

theorem solid_of_isAlphanumeric {c : Char} (h : Unicode.isAlphanumeric c = true) :
    separators.contains c = false := by
  have halphabetic : Unicode.alphabetic.isDisjoint separators = true := by decide +kernel
  have hnumeric : Unicode.numeric.isDisjoint separators = true := by decide +kernel
  rw [Unicode.isAlphanumeric, Bool.or_eq_true] at h
  rcases h with h | h
  · exact CharSet.has_eq_false_of_isDisjoint halphabetic h
  · exact CharSet.has_eq_false_of_isDisjoint hnumeric h

theorem solid_of_isNameChar {first : Bool} {c : Char} (h : isNameChar first c = true) :
    separators.contains c = false := by
  cases first with
  | true =>
      simp only [isNameChar, if_true, Bool.or_eq_true, decide_eq_true_eq] at h
      rcases h with rfl | h
      · decide
      · exact solid_of_isAlphanumeric (by rw [Unicode.isAlphanumeric, h, Bool.true_or])
  | false =>
      simp only [isNameChar, Bool.false_eq_true, if_false, Bool.or_eq_true, decide_eq_true_eq] at h
      rcases h with (((rfl | rfl) | rfl) | rfl) | h
      · decide
      · decide
      · decide
      · decide
      · exact solid_of_isAlphanumeric h

/-- Upper case makes no separator. -/
theorem solid_of_mem_upper {c d : Char} (hc : separators.contains c = false) (h : d ∈ upper c) :
    separators.contains d = false := by
  have hcapitals : capitals.isDisjoint separators = true := by decide +kernel
  rcases mem_upper h with h | rfl | ⟨rfl, -⟩
  · exact CharSet.has_eq_false_of_isDisjoint hcapitals h
  · decide
  · exact hc

/-- A name begins with no digit, so only its first character changes. -/
theorem legalizeChars_of_isGroupName {c : Char} {rest : List Char} (h : IsGroupName (c :: rest)) :
    legalizeChars (c :: rest) = upper c ++ rest := by
  have hdigit : c.isDigit = false := by
    have hdisjoint : Unicode.alphabetic.isDisjoint ⟨[(0x30, 0x39)]⟩ = true := by decide +kernel
    have hfirst := h.1
    simp only [isNameChar, if_true, Bool.or_eq_true, decide_eq_true_eq] at hfirst
    rcases hfirst with rfl | hfirst
    · decide
    · have := CharSet.has_eq_false_of_isDisjoint hdisjoint hfirst
      simpa [CharSet.has, Char.isDigit, UInt32.le_iff_toNat_le] using this
  simp [legalizeChars, hdigit]

theorem isIdentifier_legalizeChars {cs : List Char} (h : IsGroupName cs) :
    IsIdentifier (legalizeChars cs) := by
  cases cs with
  | nil => exact h.elim
  | cons c rest =>
      rw [legalizeChars_of_isGroupName h]
      have hsolid : IsSolid (upper c ++ rest) := by
        intro d hd
        rcases List.mem_append.mp hd with hd | hd
        · exact solid_of_mem_upper (solid_of_isNameChar h.1) hd
        · exact solid_of_isNameChar (h.2 d hd)
      have hsmall := fun {d : Char} (hd : d ∈ upper c) => not_smallLetter_of_mem_upper hd
      match hupper : upper c with
      | [] => exact absurd hupper (upper_ne_nil c)
      | d :: more =>
          rw [hupper] at hsolid hsmall
          exact ⟨hsolid, hsmall List.mem_cons_self⟩

/-! ## Numbered groups -/

theorem legalizeChars_decimal (n : Nat) :
    legalizeChars (Text.decimal n) = numberedGroupWord ++ Text.decimal n := by
  have hdigits : (Text.decimal n).all Char.isDigit = true :=
    List.all_eq_true.mpr fun _ hd => Text.isDigit_of_mem_decimal hd
  match hn : Text.decimal n with
  | [] => exact absurd hn (Text.decimal_ne_nil n)
  | d :: rest => rw [legalizeChars, if_pos (hn ▸ hdigits)]

theorem isIdentifier_numbered (n : Nat) : IsIdentifier (legalizeChars (Text.decimal n)) := by
  have hword : (numberedGroupWord.all fun d => !separators.contains d) = true := by decide
  have hsolid : IsSolid (numberedGroupWord ++ Text.decimal n) := by
    intro d hd
    rcases List.mem_append.mp hd with hd | hd
    · exact Bool.not_eq_true' _ ▸ List.all_eq_true.mp hword d hd
    · have hplain : Token.isPlainChar d = true := by
        rw [Token.isPlainChar, Text.isDigit_of_mem_decimal hd, Bool.or_true]
      exact CharSet.has_eq_false_of_isDisjoint (s := Token.plainChars) (by decide)
        (Token.contains_plainChars hplain)
  rw [legalizeChars_decimal]
  exact ⟨hsolid, by decide⟩

/-! ## Lists of groups -/

namespace Group

theorem length_listFrom (names : List (Option String)) (index : Nat) :
    (listFrom index names).length = names.length := by
  induction names generalizing index with
  | nil => rfl
  | cons name rest ih => rw [listFrom, List.length_cons, List.length_cons, ih]

/-- The group at a place of the list has the number of that place. -/
theorem getElem?_listFrom (names : List (Option String)) (index i : Nat) :
    (listFrom index names)[i]? = names[i]?.map (of (index + i)) := by
  induction names generalizing index i with
  | nil => rfl
  | cons name rest ih =>
      cases i with
      | zero => rfl
      | succ i => rw [listFrom, List.getElem?_cons_succ, List.getElem?_cons_succ, ih,
          Nat.add_right_comm, Nat.add_assoc]

theorem toList_identifier (index : Nat) (name : Option String) :
    (of index name).identifier.toList
      = legalizeChars ((name.map String.toList).getD (Text.decimal index)) := by
  rw [of, legalize, String.toList_ofList]
  cases name with
  | none => rw [Option.getD_none, String.toList_ofList, Option.map_none, Option.getD_none]
  | some name => rfl

/-- **Every identifier is one**, whatever the names in the pattern. -/
theorem isIdentifier_of_mem_listFrom {names : List (Option String)} (h : IsGroupList names)
    {g : Group} (hg : g ∈ listFrom 0 names) : IsIdentifier g.identifier.toList := by
  obtain ⟨i, hi⟩ := List.mem_iff_getElem?.mp hg
  rw [getElem?_listFrom] at hi
  obtain ⟨name, hname, rfl⟩ := Option.map_eq_some_iff.mp hi
  rw [toList_identifier]
  cases name with
  | none => exact isIdentifier_numbered _
  | some name => exact isIdentifier_legalizeChars (h.shaped hname)

end Group

end CaptureTypes
