/-
# Words without separators

The name in a text is the text without the blanks and comments around it.
A text that holds no character with which these begin is therefore its own
name, if it is a name at all (`eq_of_name?`).  Of such texts the words of
ASCII letters, digits and low lines are names unless they are keywords
(`name?_plain`).
-/
import CaptureTypes.Proofs.UpperCase
import CaptureTypes.Token.Name
import Mathlib.Data.List.TakeWhile

namespace CaptureTypes.Token

/-! ## Separators -/

/-- The characters that separate words or begin what separates them: blanks, the marks of
writing direction, the slash of a comment, and the mark of byte order. -/
def separators : CharSet :=
  ⟨[(0x09, 0x0D), (0x20, 0x20), (0x2F, 0x2F), (0x85, 0x85), (0xA0, 0xA0), (0x1680, 0x1680),
    (0x2000, 0x200A), (0x200E, 0x200F), (0x2028, 0x2029), (0x202F, 0x202F), (0x205F, 0x205F),
    (0x3000, 0x3000), (0xFEFF, 0xFEFF)]⟩

/-- A text without separators. -/
def IsSolid (cs : List Char) : Prop := ∀ c ∈ cs, separators.contains c = false

theorem isWithin_blank_separators : Unicode.Property.blank.isWithin separators = true := by
  decide +kernel

theorem isBlank_eq_false {c : Char} (h : separators.contains c = false) : isBlank c = false := by
  have hsep : ∀ n, separators.has n = true → c.toNat ≠ n := by
    rintro n hn rfl
    exact Bool.eq_false_iff.mp h hn
  refine Bool.eq_false_iff.mpr fun hblank => ?_
  simp only [isBlank, Bool.or_eq_true, Bool.and_eq_true, beq_iff_eq, decide_eq_true_eq] at hblank
  rcases hblank with (rfl | hcontrol) | ⟨-, hwide⟩
  · exact absurd h (by decide)
  · refine Bool.eq_false_iff.mp h (CharSet.has_iff.mpr ⟨(0x09, 0x0D), List.mem_cons_self, hcontrol⟩)
  · rcases hwide with (hmark | hmark) | hspace
    · exact hsep _ (by decide) hmark
    · exact hsep _ (by decide) hmark
    · exact Bool.eq_false_iff.mp h (CharSet.has_of_isWithin isWithin_blank_separators hspace)

theorem afterComment?_of_ne {c : Char} (h : c ≠ '/') (rest : List Char) :
    afterComment? (c :: rest) = none := by
  unfold afterComment?
  split
  case h_3 => rfl
  all_goals
    rename_i heq
    exact absurd (List.cons.inj heq).1 h

/-- Nothing is skipped where no separator stands. -/
theorem skipBlanks_eq_self {cs : List Char} (h : ∀ c ∈ cs.head?, separators.contains c = false)
    (fuel : Nat) : skipBlanks fuel cs = cs := by
  cases fuel with
  | zero => rfl
  | succ fuel =>
      cases cs with
      | nil => rfl
      | cons c cs =>
          have hc : separators.contains c = false := h c rfl
          have hslash : c ≠ '/' := by
            rintro rfl
            exact absurd hc (by decide)
          rw [skipBlanks, afterComment?_of_ne hslash]
          simp [isBlank_eq_false hc]

theorem afterBlanks_of_solid {cs : List Char} (h : IsSolid cs) : afterBlanks cs = cs :=
  skipBlanks_eq_self (fun c hc => h c (List.mem_of_mem_head? hc)) cs.length

theorem withoutMark_of_solid {cs : List Char} (h : IsSolid cs) : withoutMark cs = cs := by
  unfold withoutMark
  split
  · exact absurd (h _ List.mem_cons_self) (by decide)
  · rfl

/-! ## Words -/

theorem plainWord?_append {cs text rest : List Char} (h : plainWord? cs = some (text, rest)) :
    text ++ rest = cs := by
  unfold plainWord? at h
  split at h
  · split at h
    · cases h
      rw [List.cons_append, List.takeWhile_append_dropWhile]
    · cases h
  · cases h

theorem word?_append {cs text rest : List Char} (h : word? cs = some (text, rest)) :
    text ++ rest = cs := by
  unfold word? at h
  split at h
  · cases h
  · unfold rawWord? at h
    split at h
    · obtain ⟨⟨name, rest'⟩, hname, h⟩ := Option.bind_eq_some_iff.mp h
      simp only at h
      split at h
      · cases h
      · cases h
        rw [List.cons_append, List.cons_append, plainWord?_append hname]
    · exact plainWord?_append h

/-- A text without separators is no longer than the word in it. -/
theorem onlyWord?_of_solid {cs text : List Char} (hsolid : IsSolid cs)
    (h : onlyWord? cs = some text) : text = cs := by
  rw [onlyWord?, withoutMark_of_solid hsolid, afterBlanks_of_solid hsolid] at h
  obtain ⟨⟨word, rest⟩, hword, h⟩ := Option.bind_eq_some_iff.mp h
  have happend := word?_append hword
  have hrest : IsSolid rest := fun c hc => hsolid c (happend ▸ List.mem_append_right _ hc)
  simp only [afterBlanks_of_solid hrest] at h
  split at h
  · rename_i hnil
    cases h
    rw [← happend, hnil, List.append_nil]
  · cases h

/-- **A text without separators is its own name**, if it is a name. -/
theorem eq_of_name? {s name : String} (hsolid : IsSolid s.toList) (h : name? s = some name) :
    name = s := by
  obtain ⟨text, htext, h⟩ := Option.bind_eq_some_iff.mp h
  simp only at h
  split at h
  · cases h
    rw [onlyWord?_of_solid hsolid htext, String.ofList_toList]
  · cases h

/-! ## Words of ASCII -/

/-- The characters of a word of ASCII. -/
def isPlainChar (c : Char) : Bool := isPlainLetter c || c.isDigit

/-- A word of ASCII letters, digits and low lines, no digit first. -/
def IsPlainWord : List Char → Prop
  | [] => False
  | c :: rest => isPlainLetter c = true ∧ ∀ d ∈ rest, isPlainChar d = true

/-- The characters of words of ASCII, as intervals. -/
def plainChars : CharSet := ⟨[(0x30, 0x39), (0x41, 0x5A), (0x5F, 0x5F), (0x61, 0x7A)]⟩

theorem contains_plainChars {c : Char} (h : isPlainChar c = true) :
    plainChars.contains c = true := by
  rcases Bool.or_eq_true_iff.mp h with h | hdigit
  · rcases Bool.or_eq_true_iff.mp h with h | hlow
    · rcases Bool.or_eq_true_iff.mp h with hupper | hlower
      · obtain ⟨hA, hZ⟩ := of_decide_eq_true hupper
        exact CharSet.has_iff.mpr ⟨(0x41, 0x5A), by decide, UInt32.le_iff_toNat_le.mp hA,
          UInt32.le_iff_toNat_le.mp hZ⟩
      · obtain ⟨ha, hz⟩ := Bool.and_eq_true_iff.mp hlower
        exact CharSet.has_iff.mpr ⟨(0x61, 0x7A), by decide,
          UInt32.le_iff_toNat_le.mp (of_decide_eq_true ha),
          UInt32.le_iff_toNat_le.mp (of_decide_eq_true hz)⟩
    · rw [eq_of_beq hlow]
      decide
  · exact CharSet.has_iff.mpr ⟨(0x30, 0x39), by decide, Char.isDigit_iff_toNat.mp hdigit⟩

theorem IsPlainWord.all {cs : List Char} (h : IsPlainWord cs) : ∀ c ∈ cs, isPlainChar c = true := by
  cases cs with
  | nil => exact h.elim
  | cons c rest =>
      refine List.forall_mem_cons.mpr ⟨?_, h.2⟩
      rw [isPlainChar, h.1, Bool.true_or]

theorem IsPlainWord.solid {cs : List Char} (h : IsPlainWord cs) : IsSolid cs := by
  have hdisjoint : plainChars.isDisjoint separators = true := by decide
  intro c hc
  exact CharSet.has_eq_false_of_isDisjoint hdisjoint (contains_plainChars (h.all c hc))

theorem after?_append {start cs rest : List Char} (h : after? start cs = some rest) :
    start ++ rest = cs := by
  induction start generalizing cs with
  | nil => exact Option.some.inj h.symm
  | cons p ps ih =>
      cases cs with
      | nil => cases h
      | cons c cs =>
          rw [after?] at h
          split at h
          · rename_i hpc
            rw [List.cons_append, ih h, hpc]
          · cases h

theorem beginsWith_append (start rest : List Char) : beginsWith start (start ++ rest) = true := by
  induction start with
  | nil => rfl
  | cons c start ih => simpa [beginsWith, after?] using ih

/-- What begins a literal holds a sign. -/
theorem IsPlainWord.not_literal {cs : List Char} (h : IsPlainWord cs) :
    literalStarts.any (beginsWith · cs) = false := by
  have hsign : (literalStarts.all fun start => start.any fun c => !isPlainChar c) = true := by
    decide
  refine List.any_eq_false.mpr fun start hstart hbegins => ?_
  obtain ⟨c, hc, hplain⟩ := List.any_eq_true.mp (List.all_eq_true.mp hsign start hstart)
  obtain ⟨rest, hrest⟩ := Option.isSome_iff_exists.mp hbegins
  have hmem : c ∈ cs := after?_append hrest ▸ List.mem_append_left _ hc
  rw [h.all c hmem] at hplain
  cases hplain

theorem IsPlainWord.word? {cs : List Char} (h : IsPlainWord cs) : word? cs = some (cs, []) := by
  rw [Token.word?, h.not_literal]
  have hraw : rawWord? cs = plainWord? cs := by
    unfold rawWord?
    split
    · have := h.all '#' (by simp)
      exact absurd this (by decide)
    · rfl
  simp only [Bool.false_eq_true, if_false, hraw]
  cases cs with
  | nil => exact h.elim
  | cons c rest =>
      have hcontinues : ∀ d ∈ rest, continuesWord d = true := by
        intro d hd
        have := h.2 d hd
        simp only [isPlainChar] at this
        rw [continuesWord, this, Bool.true_or]
      have hbegins : beginsWord c = true := by rw [beginsWord, h.1, Bool.true_or]
      simp only [plainWord?, hbegins, if_true, List.takeWhile_eq_self_iff.mpr hcontinues,
        List.dropWhile_eq_nil_iff.mpr hcontinues]

/-- **A word of ASCII is a name unless it is a keyword.** -/
theorem name?_plain {s : String} (h : IsPlainWord s.toList) :
    name? s = if isName s then some s else none := by
  have hword : onlyWord? s.toList = some s.toList := by
    rw [onlyWord?, withoutMark_of_solid h.solid, afterBlanks_of_solid h.solid, h.word?]
    rfl
  rw [name?, hword]
  simp only [Option.bind_eq_bind, Option.bind_some, String.ofList_toList]

end CaptureTypes.Token
