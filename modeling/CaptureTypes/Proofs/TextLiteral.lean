/-
# Every literal of text denotes

`Denotes` gives the rules by which a literal stands for a text, and what
they allow is read.  Here is the other direction: what is split off a source
text as a literal of text is written by these rules, and what is read from
it is what it denotes (`quoted?_eq_some_iff`).

Alone the reading is more tolerant than the rules: it takes a lone carriage
return as it is, and does not look at the size of a pair of digits.  That is
what the splitting refuses, and so an escaped literal is followed through
the splitting (`exists_spells_of_afterQuoted?`).  A raw literal has nothing
to refuse.
-/
import CaptureTypes.Proofs.Denotation
import CaptureTypes.Proofs.Lexing

namespace CaptureTypes.Token

/-! ## Escapes -/

/-- The letters that are passed after a backslash are those with a meaning. -/
theorem mem_letterEscapes_of_afterEscape? {c : Char} {rest after : List Char}
    (hx : c ≠ 'x') (hu : c ≠ 'u') (h : afterEscape? .characters (c :: rest) = some after) :
    after = rest ∧ ∃ e, (c, e) ∈ letterEscapes := by
  have hmeaning : c ∈ letterEscapes.map Prod.fst → ∃ e, (c, e) ∈ letterEscapes := by
    intro hc
    obtain ⟨⟨d, e⟩, hmem, rfl⟩ := List.mem_map.mp hc
    exact ⟨e, hmem⟩
  rw [afterEscape?] at h
  case x_1 => exact hx
  case x_2 => exact hu
  split at h
  · rename_i hc
    cases h
    refine ⟨rfl, hmeaning ?_⟩
    simp only [Bool.or_eq_true, beq_iff_eq] at hc
    rcases hc with ((((rfl | rfl) | rfl) | rfl) | rfl) | rfl
    all_goals decide
  · split at h
    · rename_i hc
      cases h
      obtain ⟨rfl, -⟩ := hc
      exact ⟨rfl, hmeaning (by decide)⟩
    · cases h

/-- A pair of digits that is passed is a pair of digits, the first below eight. -/
theorem exists_pair_of_afterHexPair? {cs after : List Char}
    (h : afterHexPair? .characters cs = some after) :
    ∃ a b high low, cs = a :: b :: after ∧ hexValue? a = some high ∧ high < 8 ∧
      hexValue? b = some low := by
  unfold afterHexPair? at h
  split at h
  · rename_i a b rest
    obtain ⟨high, hhigh, h⟩ := Option.bind_eq_some_iff.mp h
    obtain ⟨low, hlow, h⟩ := Option.bind_eq_some_iff.mp h
    simp only at h
    split at h
    · rename_i hlt
      cases h
      exact ⟨a, b, high, low, rfl, hhigh, hlt, hlow⟩
    · cases h
  · cases h

/-- What is read up to a brace is hexadecimal digits, and low lines after the first of them. -/
theorem exists_digits_of_codeUntilBrace? {cs after : List Char} {count value code : Nat}
    (h : codeUntilBrace? count value cs = some (code, after)) :
    ∃ digits, cs = digits ++ '\x7d' :: after ∧ code = codeFrom value digits ∧
      (∀ d ∈ digits, isHexDigit d = true ∨ d = '_') ∧
      count + digits.countP isHexDigit ≤ max count 6 ∧
      (count = 0 → ∃ c rest, digits = c :: rest ∧ isHexDigit c = true) := by
  induction cs generalizing count value with
  | nil => cases h
  | cons c cs ih =>
      rw [codeUntilBrace?] at h
      split at h
      · rename_i d hd
        have hhex : isHexDigit c = true := by rw [isHexDigit, hd, Option.isSome_some]
        split at h
        · rename_i hlt
          obtain ⟨digits, rfl, rfl, hdigits, hcount, -⟩ := ih h
          refine ⟨c :: digits, rfl, ?_, List.forall_mem_cons.mpr ⟨.inl hhex, hdigits⟩, ?_,
            fun _ => ⟨c, digits, rfl, hhex⟩⟩
          · rw [codeFrom, hd]
          · rw [List.countP_cons_of_pos hhex]
            omega
        · cases h
      · rename_i hd
        have hhex : ¬ isHexDigit c = true := by simp [isHexDigit, hd]
        split at h
        · cases h
        · rename_i hpos
          split at h
          · rename_i hlow
            obtain ⟨digits, rfl, rfl, hdigits, hcount, -⟩ := ih h
            refine ⟨c :: digits, rfl, ?_, List.forall_mem_cons.mpr ⟨.inr hlow, hdigits⟩, ?_,
              fun hzero => absurd hzero hpos⟩
            · rw [codeFrom, hd]
            · rw [List.countP_cons_of_neg hhex]
              exact hcount
          · split at h
            · rename_i hbrace
              cases h
              refine ⟨[], by rw [hbrace]; rfl, rfl, fun _ hmem => absurd hmem List.not_mem_nil,
                Nat.le_max_left _ _, fun hzero => absurd hzero hpos⟩
            · cases h

/-- A number in braces that is read is written as one. -/
theorem exists_code_of_codeInBraces? {cs after : List Char} {c : Char}
    (h : codeInBraces? cs = some (c, after)) :
    ∃ digits, cs = '\x7b' :: (digits ++ '\x7d' :: after) ∧ IsCode digits ∧
      (codeFrom 0 digits).isValidChar := by
  unfold codeInBraces? at h
  split at h
  · obtain ⟨⟨code, rest⟩, hread, h⟩ := Option.bind_eq_some_iff.mp h
    simp only at h
    split at h
    · rename_i hvalid
      cases h
      obtain ⟨digits, rfl, rfl, hdigits, hcount, hfirst⟩ := exists_digits_of_codeUntilBrace? hread
      refine ⟨digits, rfl, ?_, hvalid⟩
      obtain ⟨d, tail, rfl, hd⟩ := hfirst rfl
      rw [List.countP_cons_of_pos hd] at hcount
      exact ⟨hd, (List.forall_mem_cons.mp hdigits).2, by omega⟩
    · cases h
  · cases h

/-- The blanks of a continued line, up to what is none. -/
theorem exists_blanks_of_afterContinuation? {cs after : List Char}
    (h : afterContinuation? cs = some after) :
    ∃ blanks, cs = blanks ++ after ∧ (∀ b ∈ blanks, isContinuationBlank b = true) ∧
      ∀ c ∈ after.head?, isContinuationBlank c = false := by
  fun_induction afterContinuation? cs with
  | case1 => cases h
  | case2 rest ih =>
      obtain ⟨blanks, rfl, hblanks, hafter⟩ := ih h
      refine ⟨'\r' :: '\n' :: blanks, rfl, ?_, hafter⟩
      exact List.forall_mem_cons.mpr ⟨rfl, List.forall_mem_cons.mpr ⟨rfl, hblanks⟩⟩
  | case3 => cases h
  | case4 c rest _ _ hblank ih =>
      obtain ⟨blanks, rfl, hblanks, hafter⟩ := ih h
      refine ⟨c :: blanks, rfl, List.forall_mem_cons.mpr ⟨?_, hblanks⟩, hafter⟩
      simp only [Bool.or_eq_true] at hblank
      simp only [isContinuationBlank, Bool.or_eq_true]
      exact .inl hblank
  | case5 c rest _ hreturn hblank =>
      cases h
      refine ⟨[], rfl, fun _ hmem => absurd hmem List.not_mem_nil, fun d hd => ?_⟩
      cases hd
      simp only [Bool.or_eq_true, not_or, beq_iff_eq] at hblank
      simp [isContinuationBlank, hblank, hreturn]

/-- A return in a continued line belongs to a line end. -/
theorem exists_lineEnd_of_afterContinuation? {cs after : List Char}
    (h : afterContinuation? ('\r' :: cs) = some after) :
    ∃ rest, cs = '\n' :: rest ∧ afterContinuation? rest = some after := by
  rw [afterContinuation?.eq_def] at h
  split at h
  · cases h
  · rename_i rest heq
    exact ⟨rest, (List.cons.inj heq).2, h⟩
  · rename_i c rest _ heq
    rw [if_pos (List.cons.inj heq).1.symm] at h
    cases h

/-! ## Escaped literals -/

/-- An escape that is passed is spelled, before whatever is spelled after it. -/
theorem exists_spells_of_afterEscape? {cs after meant : List Char}
    (h : afterEscape? .characters cs = some after) (hafter : Spells after meant) :
    ∃ meant', Spells ('\\' :: cs) meant' := by
  cases cs with
  | nil => cases h
  | cons c rest =>
      by_cases hx : c = 'x'
      · subst hx
        obtain ⟨a, b, high, low, rfl, hhigh, hlt, hlow⟩ := exists_pair_of_afterHexPair? h
        exact ⟨_, .pair hhigh hlt hlow hafter⟩
      by_cases hu : c = 'u'
      · subst hu
        obtain ⟨⟨c, after⟩, hcode, rfl⟩ := Option.map_eq_some_iff.mp h
        obtain ⟨digits, rfl, hdigits, hvalid⟩ := exists_code_of_codeInBraces? hcode
        exact ⟨_, .code hdigits hvalid hafter⟩
      obtain ⟨rfl, e, hmem⟩ := mem_letterEscapes_of_afterEscape? hx hu h
      exact ⟨_, .letter hmem hafter⟩

/-- **What is split off as escaped text is spelled.** -/
theorem exists_spells_of_afterQuoted? {fuel : Nat} {cs after : List Char}
    (h : afterQuoted? .characters fuel cs = some after) : ∃ meant, Spells cs meant := by
  fun_induction afterQuoted? .characters fuel cs with
  | case1 | case2 | case5 | case10 => cases h
  | case3 => exact ⟨[], .close⟩
  | case4 fuel rest ih =>
      obtain ⟨meant, hmeant⟩ := ih h
      exact ⟨'\n' :: meant, .lineEnd hmeant⟩
  | case6 fuel rest ih =>
      obtain ⟨written, hcontinued, hrest⟩ := Option.bind_eq_some_iff.mp h
      obtain ⟨meant, hmeant⟩ := ih written hrest
      obtain ⟨blanks, rfl, hblanks, hwritten⟩ := exists_blanks_of_afterContinuation? hcontinued
      exact ⟨meant, .continued (by decide) hblanks hwritten hmeant⟩
  | case7 fuel rest ih =>
      obtain ⟨written, hcontinued, hrest⟩ := Option.bind_eq_some_iff.mp h
      obtain ⟨meant, hmeant⟩ := ih written hrest
      obtain ⟨more, rfl, hmore⟩ := exists_lineEnd_of_afterContinuation? hcontinued
      obtain ⟨blanks, rfl, hblanks, hwritten⟩ := exists_blanks_of_afterContinuation? hmore
      have hall : ∀ b ∈ '\n' :: blanks, isContinuationBlank b = true :=
        List.forall_mem_cons.mpr ⟨rfl, hblanks⟩
      exact ⟨meant, .continued (by decide) hall hwritten hmeant⟩
  | case8 fuel rest _ _ ih =>
      obtain ⟨after', hescape, h⟩ := Option.bind_eq_some_iff.mp h
      obtain ⟨meant, hmeant⟩ := ih after' h
      exact exists_spells_of_afterEscape? hescape hmeant
  | case9 fuel c rest hquote hreturn _ _ hslash _ ih =>
      obtain ⟨meant, hmeant⟩ := ih h
      refine ⟨c :: meant, .plain ?_ hmeant⟩
      simp only [List.mem_cons, List.not_mem_nil, or_false, not_or]
      exact ⟨hquote, hslash, hreturn⟩

/-! ## Raw literals -/

/-- What is read from a raw literal is what is before its closing mark, which is the first. -/
theorem exists_suffix_of_unquoteRaw? {hashes : Nat} {inside meant : List Char}
    (h : unquoteRaw? (List.replicate hashes '#') inside = some meant) :
    ¬ '"' :: List.replicate hashes '#' <:+: meant ∧
      ∃ suffix, inside = meant ++ '"' :: (List.replicate hashes '#' ++ suffix) := by
  induction inside generalizing meant with
  | nil => cases h
  | cons c inside ih =>
      rw [unquoteRaw?] at h
      split at h
      · rename_i hclose
        cases h
        obtain ⟨rfl, hbegins⟩ := hclose
        obtain ⟨suffix, hsuffix⟩ := Option.isSome_iff_exists.mp hbegins
        refine ⟨fun hin => ?_, suffix, ?_⟩
        · exact List.cons_ne_nil _ _ (List.infix_nil.mp hin)
        · rw [List.nil_append, after?_append hsuffix]
      · rename_i hopen
        obtain ⟨meant, hmeant, rfl⟩ := Option.map_eq_some_iff.mp h
        obtain ⟨hinside, suffix, rfl⟩ := ih hmeant
        refine ⟨fun hin => ?_, suffix, rfl⟩
        rcases List.infix_cons_iff.mp hin with hprefix | hin
        · obtain ⟨hc, more, rfl⟩ := List.cons_prefix_cons.mp hprefix
          refine hopen ⟨hc.symm, ?_⟩
          rw [List.append_assoc]
          exact beginsWith_append _ _
        · exact hinside hin

/-! ## Both kinds -/

/-- A literal that begins with a quotation mark is split off as escaped text. -/
theorem exists_afterQuoted?_of_afterLiteral? {written after : List Char}
    (h : afterLiteral? ('"' :: written) = some after) :
    ∃ after', afterQuoted? .characters (written.length + 1) written = some after' := by
  cases htext : afterQuoted? .characters (written.length + 1) written with
  | some after' => exact ⟨after', rfl⟩
  | none =>
      -- no other literal begins with the mark
      have hplain : afterText? [] .characters ('"' :: written) = none := htext
      have hbytes : afterText? ['b'] .bytes ('"' :: written) = none := rfl
      have hnullFree : afterText? ['c'] .nullFree ('"' :: written) = none := rfl
      have hbyte : afterSingle? ['b'] .bytes ('"' :: written) = none := rfl
      have hsingle : afterSingle? [] .characters ('"' :: written) = none := rfl
      have hfraction : afterNumber? afterFraction? ('"' :: written) = none := rfl
      have hwhole : afterNumber? afterWhole? ('"' :: written) = none := by
        rw [afterNumber?, afterWhole?_eq_none written rfl]
        rfl
      rw [afterLiteral?, hplain, hbytes, hnullFree, hbyte, hsingle, hfraction, hwhole] at h
      cases h

/-- **A literal is read as a text iff it denotes that text**, if it is split off whole. -/
theorem quoted?_eq_some_iff {literal pattern : String}
    (hwhole : afterLiteral? literal.toList = some []) :
    quoted? literal = some pattern ↔ Denotes literal pattern := by
  refine ⟨fun h => ?_, quoted?_of_denotes⟩
  obtain ⟨meant, hmeant, rfl⟩ := Option.map_eq_some_iff.mp h
  unfold quotedChars? at hmeant
  split at hmeant
  · rename_i written hliteral
    rw [hliteral] at hwhole
    obtain ⟨after, hafter⟩ := exists_afterQuoted?_of_afterLiteral? hwhole
    obtain ⟨meant', hspells⟩ := exists_spells_of_afterQuoted? hafter
    have hread := unquote?_of_spells hspells (Nat.lt_succ_self _)
    cases hmeant.symm.trans hread
    exact .escaped hliteral (by rw [String.toList_ofList]; exact hspells)
  · rename_i rest hliteral
    split at hmeant
    · rename_i inside hinside
      have hhashes : rest.takeWhile (· = '#')
          = List.replicate (rest.takeWhile (· = '#')).length '#' := by
        refine List.eq_replicate_iff.mpr ⟨rfl, fun c hc => ?_⟩
        have hmark : decide (c = '#') = true :=
          List.mem_takeWhile_imp (p := fun c => decide (c = '#')) hc
        exact of_decide_eq_true hmark
      rw [hhashes] at hmeant
      obtain ⟨hopen, suffix, hsuffix⟩ := exists_suffix_of_unquoteRaw? hmeant
      refine @Denotes.raw _ _ (rest.takeWhile (· = '#')).length suffix ?_ ?_
      · rw [hliteral, String.toList_ofList, ← hsuffix, ← hhashes, ← hinside,
          List.takeWhile_append_dropWhile]
      · rw [String.toList_ofList]
        exact hopen
    · cases hmeant
  · cases hmeant

end CaptureTypes.Token
