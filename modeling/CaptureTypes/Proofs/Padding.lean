/-
# The name that a text holds

A name is read from a text, and the text may hold more than the name: blanks
and comments around it, and a mark of byte order before all.  `Holds` says
which name a text holds, and says of the name what is asked of it alone
(`IsBareName`): it is written with the characters of words, raw or not, and
no keyword.

What is read is what is held (`name?_eq_some_iff`).  Separators decide it:
the name ends where what is skipped begins, because no character of a word
is one with which something begins that is skipped.
-/
import CaptureTypes.Proofs.Lexing

namespace CaptureTypes.Token

/-! ## Bare names -/

/-- The characters of a word. -/
def IsWord : List Char → Prop
  | [] => False
  | c :: rest => beginsWord c = true ∧ ∀ d ∈ rest, continuesWord d = true

/-- A name as it is written: a word, or a raw one after its mark, but no keyword. -/
structure IsBareName (s : String) : Prop where
  written : IsWord s.toList ∨
    ∃ name, s.toList = 'r' :: '#' :: name ∧ IsWord name ∧ name ∉ neverRaw
  free : s ∉ keywords

/-- What is left of a text after some of the blanks and comments at its start. -/
inductive Skips : List Char → List Char → Prop
  | done {cs : List Char} : Skips cs cs
  | blank {c : Char} {cs rest : List Char} : isBlank c = true → Skips cs rest →
      Skips (c :: cs) rest
  | comment {cs after rest : List Char} : afterComment? cs = some after → Skips after rest →
      Skips cs rest

/-- A text holds a name, with blanks and comments around it and nothing else. -/
structure Holds (text name : String) : Prop where
  bare : IsBareName name
  around : ∃ back, Skips (withoutMark text.toList) (name.toList ++ back) ∧ Skips back []

/-! ## Words and separators -/

/-- A table is read from its characters, which evaluation has at hand where it would have to find
them one by one in the text. -/
theorem isDisjoint_ofText {table : String} {cs : List Char} {s : CharSet}
    (htable : table = String.ofList cs)
    (h : (CharSet.mk ((Text.words cs).map CharSet.readInterval)).isDisjoint s = true) :
    (CharSet.ofText table).isDisjoint s = true := by
  rw [htable, CharSet.ofText, String.toList_ofList]
  exact h

set_option maxRecDepth 100000 in
theorem isDisjoint_wordStart_separators :
    Unicode.Property.wordStart.isDisjoint separators = true :=
  isDisjoint_ofText rfl (by decide +kernel)

set_option maxRecDepth 100000 in
theorem isDisjoint_wordContinue_separators :
    Unicode.Property.wordContinue.isDisjoint separators = true :=
  isDisjoint_ofText rfl (by decide +kernel)

/-- No word begins or goes on with a separator. -/
theorem contains_separators_eq_false {c : Char} (h : beginsWord c = true ∨ continuesWord c = true) :
    separators.contains c = false := by
  have hplain : isPlainChar c = true → separators.contains c = false := fun hc =>
    CharSet.has_eq_false_of_isDisjoint (by decide) (contains_plainChars hc)
  simp only [beginsWord, continuesWord, Bool.or_eq_true, Bool.and_eq_true] at h
  simp only [isPlainChar, Bool.or_eq_true] at hplain
  rcases h with (hletter | ⟨-, hwide⟩) | ((hletter | hdigit) | ⟨-, hwide⟩)
  · exact hplain (.inl hletter)
  · exact CharSet.has_eq_false_of_isDisjoint isDisjoint_wordStart_separators hwide
  · exact hplain (.inl hletter)
  · exact hplain (.inr hdigit)
  · exact CharSet.has_eq_false_of_isDisjoint isDisjoint_wordContinue_separators hwide

theorem IsWord.solid {cs : List Char} (h : IsWord cs) : IsSolid cs := by
  cases cs with
  | nil => exact h.elim
  | cons c cs =>
      obtain ⟨hc, hcs⟩ := h
      refine List.forall_mem_cons.mpr ⟨contains_separators_eq_false (.inl hc), fun d hd => ?_⟩
      exact contains_separators_eq_false (.inr (hcs d hd))

theorem IsBareName.solid {s : String} (h : IsBareName s) : IsSolid s.toList := by
  rcases h.written with hword | ⟨name, heq, hword, -⟩
  · exact hword.solid
  · rw [heq]
    exact List.forall_mem_cons.mpr ⟨by decide, List.forall_mem_cons.mpr ⟨by decide, hword.solid⟩⟩

theorem IsBareName.ne_nil {s : String} (h : IsBareName s) : s.toList ≠ [] := by
  intro hnil
  rcases h.written with hword | ⟨name, heq, -⟩
  · rw [hnil] at hword
    exact hword
  · rw [hnil] at heq
    cases heq

/-! ## What is skipped -/

/-- Skipping goes as far as it goes by one rule or the other. -/
theorem skips_skipBlanks (fuel : Nat) (cs : List Char) : Skips cs (skipBlanks fuel cs) := by
  induction fuel generalizing cs with
  | zero => exact .done
  | succ fuel ih =>
      unfold skipBlanks
      split
      · rename_i after hafter
        exact .comment hafter (ih after)
      · split
        · split
          · rename_i hblank
            exact .blank hblank (ih _)
          · exact .done
        · exact .done

/-- What begins something that is skipped is a separator. -/
theorem Skips.separator {cs : List Char} (h : Skips cs []) :
    ∀ c ∈ cs.head?, separators.contains c = true := by
  intro c hc
  cases h with
  | done => cases hc
  | blank hblank _ =>
      cases hc
      cases hsep : separators.contains c with
      | true => rfl
      | false =>
          rw [isBlank_eq_false hsep] at hblank
          cases hblank
  | comment hcomment _ =>
      unfold afterComment? at hcomment
      split at hcomment
      · cases hc
        decide
      · cases hc
        decide
      · cases hcomment

/-- **What can be skipped up to a word is skipped**, given enough fuel. -/
theorem Skips.skipBlanks_eq {cs rest : List Char} (h : Skips cs rest)
    (hend : ∀ c ∈ rest.head?, separators.contains c = false) {fuel : Nat}
    (hfuel : cs.length ≤ fuel) : skipBlanks fuel cs = rest := by
  induction h generalizing fuel with
  | done => exact skipBlanks_eq_self hend fuel
  | @blank c cs rest hblank _ ih =>
      obtain ⟨n, rfl⟩ := Nat.exists_eq_add_of_lt hfuel
      have hslash : c ≠ '/' := by
        rintro rfl
        exact absurd hblank (by decide)
      rw [skipBlanks, afterComment?_of_ne hslash]
      simp only [hblank, if_true]
      exact ih hend (Nat.le_add_right _ _)
  | comment hcomment _ ih =>
      have hlt := length_afterComment?_lt hcomment
      obtain ⟨n, rfl⟩ : ∃ n, fuel = n + 1 := ⟨fuel - 1, by omega⟩
      unfold skipBlanks
      rw [hcomment]
      exact ih hend (by omega)

theorem Skips.afterBlanks_eq {cs rest : List Char} (h : Skips cs rest)
    (hend : ∀ c ∈ rest.head?, separators.contains c = false) : afterBlanks cs = rest :=
  h.skipBlanks_eq hend (Nat.le_refl _)

/-! ## Words before what is skipped -/

/-- Whether a text gets from characters of words to a mark that no word holds. -/
def reachesMark : List Char → Bool
  | [] => false
  | c :: rest => c ∈ ['"', '\'', '#'] || (continuesWord c && reachesMark rest)

/-- The marks belong neither to words nor to what is skipped. -/
theorem of_mem_marks {c : Char} (h : c ∈ ['"', '\'', '#']) :
    beginsWord c = false ∧ continuesWord c = false ∧ separators.contains c = false := by
  have htable : (['"', '\'', '#'].all fun c =>
      !beginsWord c && !continuesWord c && !separators.contains c) = true := by decide
  simpa [and_assoc] using List.all_eq_true.mp htable c h

theorem IsWord.not_mark {cs : List Char} (h : IsWord cs) : ∀ c ∈ cs, c ∉ ['"', '\'', '#'] := by
  cases cs with
  | nil => exact h.elim
  | cons c cs =>
      obtain ⟨hc, hcs⟩ := h
      refine List.forall_mem_cons.mpr ⟨fun hmem => ?_, fun d hd hmem => ?_⟩
      · rw [(of_mem_marks hmem).1] at hc
        cases hc
      · have hd := hcs d hd
        rw [(of_mem_marks hmem).2.1] at hd
        cases hd

section
variable {back : List Char} (hback : ∀ c ∈ back.head?, separators.contains c = true)
include hback

/-- A word ends before a separator. -/
theorem plainWord?_before_separator {cs : List Char} (h : IsWord cs) :
    plainWord? (cs ++ back) = some (cs, back) := by
  cases cs with
  | nil => exact h.elim
  | cons c cs =>
      obtain ⟨hc, hcs⟩ := h
      have hend : ∀ d ∈ back.head?, continuesWord d = false := fun d hd =>
        Bool.eq_false_iff.mpr fun hd' => by
          have hno := contains_separators_eq_false (.inr hd')
          rw [hback d hd] at hno
          cases hno
      rw [List.cons_append, plainWord?, if_pos hc, List.takeWhile_append_of_pos hcs,
        List.dropWhile_append_of_pos hcs]
      cases back with
      | nil => simp
      | cons d back => simp [hend d rfl]

/-- A word before a separator begins nothing that has a mark in it. -/
theorem beginsWith_eq_false_of_mark {cs : List Char} (hcs : ∀ c ∈ cs, c ∉ ['"', '\'', '#'])
    {start : List Char} (hstart : reachesMark start = true) :
    beginsWith start (cs ++ back) = false := by
  induction start generalizing cs with
  | nil => cases hstart
  | cons p start ih =>
      rw [reachesMark, Bool.or_eq_true, decide_eq_true_eq, Bool.and_eq_true] at hstart
      cases cs with
      | nil =>
          cases hb : back with
          | nil => rfl
          | cons d back =>
              have hd : separators.contains d = true := hback d (by rw [hb]; rfl)
              have hp : separators.contains p = false := by
                rcases hstart with hmark | ⟨hword, -⟩
                · exact (of_mem_marks hmark).2.2
                · exact contains_separators_eq_false (.inr hword)
              have hne : d ≠ p := by
                rintro rfl
                rw [hd] at hp
                cases hp
              rw [List.nil_append, beginsWith, after?_cons_ne hne]
              rfl
      | cons c cs =>
          obtain ⟨hc, hcs⟩ := List.forall_mem_cons.mp hcs
          rw [List.cons_append]
          by_cases hp : c = p
          · subst hp
            rw [beginsWith_cons]
            exact ih hcs (hstart.resolve_left hc).2
          · rw [beginsWith, after?_cons_ne hp]
            rfl

/-- A word before a separator is no raw word and begins no literal. -/
theorem word?_of_isWord {cs : List Char} (h : IsWord cs) : word? (cs ++ back) = some (cs, back) := by
  have hstarts : literalStarts.any (beginsWith · (cs ++ back)) = false := by
    have htable : literalStarts.all reachesMark = true := by decide
    refine List.any_eq_false.mpr fun start hstart => ?_
    rw [beginsWith_eq_false_of_mark hback h.not_mark (List.all_eq_true.mp htable start hstart)]
    exact Bool.false_ne_true
  have hplain : plainWord? (cs ++ back) = some (cs, back) := plainWord?_before_separator hback h
  rw [Token.word?, hstarts, if_neg Bool.false_ne_true]
  unfold rawWord?
  split
  · rename_i rest heq
    -- the hash would be a character of the word, or the separator after it
    rcases cs with - | ⟨c, - | ⟨d, cs⟩⟩
    · exact h.elim
    · have hrest : back = '#' :: rest := (List.cons.inj heq).2
      have hhash : separators.contains '#' = true := hback '#' (by rw [hrest]; rfl)
      exact absurd hhash (by decide)
    · have hd : d = '#' := (List.cons.inj (List.cons.inj heq).2).1
      have hmark := h.not_mark d (List.mem_cons_of_mem _ List.mem_cons_self)
      exact absurd (hd ▸ hmark) (by decide)
  · exact hplain

/-- A raw word before a separator is one, and begins no literal either. -/
theorem word?_of_raw {name : List Char} (h : IsWord name) (hraw : name ∉ neverRaw) :
    word? ('r' :: '#' :: (name ++ back)) = some ('r' :: '#' :: name, back) := by
  have hplain : plainWord? (name ++ back) = some (name, back) := plainWord?_before_separator hback h
  have hstarts : literalStarts.any (beginsWith · ('r' :: '#' :: (name ++ back))) = false := by
    cases name with
    | nil => exact h.elim
    | cons c name =>
        obtain ⟨hquote, -, hhash⟩ : c ≠ '"' ∧ c ≠ '\'' ∧ c ≠ '#' := by
          have hmark := h.not_mark c List.mem_cons_self
          simpa using hmark
        simp [literalStarts, beginsWith, after?, Ne.symm hquote, Ne.symm hhash]
  rw [word?, hstarts, if_neg Bool.false_ne_true]
  simp only [rawWord?, hplain, Option.bind_eq_bind, Option.bind_some, if_neg hraw]

/-- **A name before a separator is read as a word**, up to there. -/
theorem IsBareName.word? {s : String} (h : IsBareName s) :
    word? (s.toList ++ back) = some (s.toList, back) := by
  rcases h.written with hword | ⟨name, heq, hword, hraw⟩
  · exact word?_of_isWord hback hword
  · rw [heq]
    exact word?_of_raw hback hword hraw

end

/-! ## Names as they are read -/

theorem isWord_of_plainWord? {cs text rest : List Char} (h : plainWord? cs = some (text, rest)) :
    IsWord text := by
  unfold plainWord? at h
  split at h
  · split at h
    · rename_i c cs hc
      cases h
      exact ⟨hc, fun d hd => List.mem_takeWhile_imp hd⟩
    · cases h
  · cases h

/-- What is read as a word is written as one, or as a raw one. -/
theorem written_of_word? {cs text rest : List Char} (h : word? cs = some (text, rest)) :
    IsWord text ∨ ∃ name, text = 'r' :: '#' :: name ∧ IsWord name ∧ name ∉ neverRaw := by
  unfold word? at h
  split at h
  · cases h
  · unfold rawWord? at h
    split at h
    · obtain ⟨⟨name, rest'⟩, hname, h⟩ := Option.bind_eq_some_iff.mp h
      simp only at h
      split at h
      · cases h
      · rename_i hraw
        cases h
        exact .inr ⟨name, rfl, isWord_of_plainWord? hname, hraw⟩
    · exact .inl (isWord_of_plainWord? h)

theorem isName_eq_true_iff {s : String} : isName s = true ↔ s ∉ keywords := by
  simp [isName]

/-- **The name read from a text is the one that it holds.** -/
theorem name?_eq_some_iff {text name : String} : name? text = some name ↔ Holds text name := by
  constructor
  · intro h
    obtain ⟨found, hfound, h⟩ := Option.bind_eq_some_iff.mp h
    simp only at h
    split at h
    case isFalse => cases h
    case isTrue hname =>
      cases h
      obtain ⟨⟨word, back⟩, hword, hback⟩ := Option.bind_eq_some_iff.mp hfound
      simp only at hback
      split at hback
      case isFalse => cases hback
      case isTrue hend =>
        cases hback
        refine ⟨⟨?_, isName_eq_true_iff.mp hname⟩, back, ?_, ?_⟩
        · rw [String.toList_ofList]
          exact written_of_word? hword
        · rw [String.toList_ofList, word?_append hword]
          exact skips_skipBlanks _ _
        · have hskips := skips_skipBlanks back.length back
          rwa [← afterBlanks, hend] at hskips
  · rintro ⟨hbare, back, hfront, hback⟩
    have hseparator := hback.separator
    have hstart : ∀ c ∈ (name.toList ++ back).head?, separators.contains c = false := by
      intro c hc
      cases hname : name.toList with
      | nil => exact absurd hname hbare.ne_nil
      | cons d rest =>
          rw [hname] at hc
          cases hc
          exact hbare.solid c (by rw [hname]; exact List.mem_cons_self)
    have hend : ∀ c ∈ ([] : List Char).head?, separators.contains c = false := by
      intro c hc
      cases hc
    have hread : onlyWord? text.toList = some name.toList := by
      rw [onlyWord?, hfront.afterBlanks_eq hstart]
      simp only [hbare.word? hseparator, Option.bind_eq_bind, Option.bind_some,
        hback.afterBlanks_eq hend, if_true]
    rw [name?, hread]
    simp only [Option.bind_eq_bind, Option.bind_some, String.ofList_toList,
      isName_eq_true_iff.mpr hbare.free, if_true]

/-- A text has a name iff it holds one. -/
theorem name?_eq_none_iff {text : String} : name? text = none ↔ ∀ name, ¬ Holds text name := by
  rw [Option.eq_none_iff_forall_ne_some]
  exact forall_congr' fun name => not_congr name?_eq_some_iff

/-- **A text is its own name iff it is a bare name.** -/
theorem name?_self_iff {s : String} : name? s = some s ↔ IsBareName s := by
  constructor
  · intro h
    exact (name?_eq_some_iff.mp h).bare
  · intro h
    refine name?_eq_some_iff.mpr ⟨h, [], ?_, .done⟩
    rw [withoutMark_of_solid h.solid, List.append_nil]
    exact .done

end CaptureTypes.Token
