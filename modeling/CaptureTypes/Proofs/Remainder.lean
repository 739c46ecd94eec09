/-
# What is left of a text

Whatever is read from the start of a text leaves an end of that text: blanks
and comments, documents, literals of all kinds, signs and words.  So what
was passed and what is left make up the text, and nothing is read twice or
left out.
-/
import CaptureTypes.Proofs.Word
import CaptureTypes.Token.Literal

namespace CaptureTypes.Token

variable {cs rest : List Char}

/-! ## Blanks and comments -/

theorem suffix_untilLineEnd (cs : List Char) : (untilLineEnd cs).2 <:+ cs := by
  fun_induction untilLineEnd cs with
  | case1 | case2 => exact List.suffix_rfl
  | case3 => exact List.suffix_cons _ _
  | case4 c rest _ _ line after hafter ih =>
      rw [hafter] at ih
      exact ih.trans (List.suffix_cons _ _)

theorem suffix_untilBlockEnd {depth : Nat} {inside : List Char}
    (h : untilBlockEnd depth cs = some (inside, rest)) : rest <:+ cs := by
  fun_induction untilBlockEnd depth cs generalizing inside rest with
  | case1 => cases h
  | case3 =>
      cases h
      exact List.suffix_append ['*', '/'] _
  | case2 | case4 =>
      rename_i ih
      obtain ⟨⟨i, r⟩, hr, hsome⟩ := Option.bind_eq_some_iff.mp h
      cases hsome
      exact (ih hr).trans (List.suffix_append [_, _] _)
  | case5 _ _ _ _ _ _ ih =>
      obtain ⟨⟨i, r⟩, hr, hsome⟩ := Option.bind_eq_some_iff.mp h
      cases hsome
      exact (ih hr).trans (List.suffix_cons _ _)

theorem suffix_afterComment? (h : afterComment? cs = some rest) : rest <:+ cs := by
  unfold afterComment? at h
  split at h
  · split at h
    · cases h
    · cases h
      exact (suffix_untilLineEnd _).trans (List.suffix_append ['/', '/'] _)
  · split at h
    · cases h
      exact (List.drop_suffix 2 _).trans (List.suffix_append ['/', '*'] _)
    · split at h
      · cases h
      · obtain ⟨⟨inside, found⟩, hfound, rfl⟩ := Option.map_eq_some_iff.mp h
        exact (suffix_untilBlockEnd hfound).trans (List.suffix_append ['/', '*'] _)
  · cases h

theorem suffix_skipBlanks (fuel : Nat) (cs : List Char) : skipBlanks fuel cs <:+ cs := by
  induction fuel generalizing cs with
  | zero => exact List.suffix_rfl
  | succ fuel ih =>
      unfold skipBlanks
      split
      · rename_i rest hrest
        exact (ih rest).trans (suffix_afterComment? hrest)
      · split
        · split
          · exact (ih _).trans (List.suffix_cons _ _)
          · exact List.suffix_rfl
        · exact List.suffix_rfl

theorem suffix_afterBlanks (cs : List Char) : afterBlanks cs <:+ cs := suffix_skipBlanks _ _

theorem suffix_withoutMark (cs : List Char) : withoutMark cs <:+ cs := by
  unfold withoutMark
  split
  · exact List.suffix_cons _ _
  · exact List.suffix_rfl

theorem suffix_document? {d : Document} (h : document? cs = some (d, rest)) : rest <:+ cs := by
  obtain ⟨⟨d', rest'⟩, hany, h⟩ := Option.bind_eq_some_iff.mp h
  simp only at h
  split at h
  case isFalse => cases h
  case isTrue =>
    cases h
    unfold anyDocument? at hany
    split at hany
    · cases hany
      exact (suffix_untilLineEnd _).trans (List.suffix_append ['/', '/', '!'] _)
    · split at hany
      · cases hany
      · cases hany
        exact (suffix_untilLineEnd _).trans (List.suffix_append ['/', '/', '/'] _)
    · obtain ⟨⟨inside, r⟩, hr, hsome⟩ := Option.bind_eq_some_iff.mp hany
      cases hsome
      exact (suffix_untilBlockEnd hr).trans (List.suffix_append ['/', '*', '!'] _)
    · split at hany
      · cases hany
      · obtain ⟨⟨inside, r⟩, hr, hsome⟩ := Option.bind_eq_some_iff.mp hany
        cases hsome
        exact (suffix_untilBlockEnd hr).trans (List.suffix_append ['/', '*', '*'] _)
    · cases hany

/-! ## Suffixes of literals and escapes -/

theorem suffix_afterWord? (h : afterWord? cs = some rest) : rest <:+ cs := by
  unfold afterWord? at h
  split at h
  · split at h
    · cases h
      exact (List.dropWhile_suffix _).trans (List.suffix_cons _ _)
    · cases h
  · cases h

theorem suffix_afterSuffix (cs : List Char) : afterSuffix cs <:+ cs := by
  rw [afterSuffix]
  cases h : afterWord? cs with
  | none => exact List.suffix_rfl
  | some rest => exact suffix_afterWord? h

theorem suffix_after? {start : List Char} (h : after? start cs = some rest) : rest <:+ cs :=
  ⟨start, after?_append h⟩

theorem suffix_atWordBreak? (h : atWordBreak? cs = some rest) : rest <:+ cs := by
  unfold atWordBreak? at h
  split at h
  · split at h
    · cases h
    · cases h
      exact List.suffix_rfl
  · cases h
    exact List.suffix_rfl

theorem suffix_afterHexPair? {kind : Charset} (h : afterHexPair? kind cs = some rest) :
    rest <:+ cs := by
  unfold afterHexPair? at h
  split at h
  · rename_i a b more
    obtain ⟨high, -, h⟩ := Option.bind_eq_some_iff.mp h
    obtain ⟨low, -, h⟩ := Option.bind_eq_some_iff.mp h
    have hmore : more <:+ a :: b :: more := List.suffix_append [a, b] more
    cases kind with
    | characters =>
        simp only at h
        split at h
        · exact Option.some.inj h ▸ hmore
        · cases h
    | bytes => exact Option.some.inj h ▸ hmore
    | nullFree =>
        simp only at h
        split at h
        · cases h
        · exact Option.some.inj h ▸ hmore
  · cases h

theorem suffix_codeUntilBrace? {count value code : Nat}
    (h : codeUntilBrace? count value cs = some (code, rest)) : rest <:+ cs := by
  fun_induction codeUntilBrace? count value cs with
  | case1 _ _ _ _ _ _ _ ih | case4 _ _ _ _ _ ih => exact (ih h).trans (List.suffix_cons _ _)
  | case5 =>
      cases h
      exact List.suffix_cons _ _
  | case2 | case3 | case6 | case7 => cases h

theorem suffix_codeInBraces? {c : Char} (h : codeInBraces? cs = some (c, rest)) : rest <:+ cs := by
  unfold codeInBraces? at h
  split at h
  · obtain ⟨⟨value, after⟩, hcode, h⟩ := Option.bind_eq_some_iff.mp h
    simp only at h
    split at h
    · cases h
      exact (suffix_codeUntilBrace? hcode).trans (List.suffix_cons _ _)
    · cases h
  · cases h

theorem suffix_afterEscape? {kind : Charset} (h : afterEscape? kind cs = some rest) :
    rest <:+ cs := by
  unfold afterEscape? at h
  split at h
  · exact (suffix_afterHexPair? h).trans (List.suffix_cons _ _)
  · cases kind with
    | bytes => cases h
    | characters =>
        obtain ⟨⟨c, after⟩, hcode, rfl⟩ := Option.map_eq_some_iff.mp h
        exact (suffix_codeInBraces? hcode).trans (List.suffix_cons _ _)
    | nullFree =>
        obtain ⟨⟨c, after⟩, hcode, h⟩ := Option.bind_eq_some_iff.mp h
        simp only at h
        split at h
        · cases h
        · cases h
          exact (suffix_codeInBraces? hcode).trans (List.suffix_cons _ _)
  · split at h
    · cases h
      exact List.suffix_cons _ _
    · split at h
      · cases h
        exact List.suffix_cons _ _
      · cases h
  · cases h

/-! ## Quoted literals -/

theorem suffix_afterContinuation? (h : afterContinuation? cs = some rest) : rest <:+ cs := by
  fun_induction afterContinuation? cs with
  | case1 | case3 => cases h
  | case2 _ ih => exact (ih h).trans (List.suffix_append ['\r', '\n'] _)
  | case4 _ _ _ _ _ ih => exact (ih h).trans (List.suffix_cons _ _)
  | case5 =>
      cases h
      exact List.suffix_rfl

theorem suffix_afterQuoted? {kind : Charset} {fuel : Nat}
    (h : afterQuoted? kind fuel cs = some rest) : rest <:+ cs := by
  fun_induction afterQuoted? kind fuel cs with
  | case1 | case2 | case5 | case10 => cases h
  | case3 =>
      cases h
      exact (suffix_afterSuffix _).trans (List.suffix_cons _ _)
  | case4 _ _ ih => exact (ih h).trans (List.suffix_append ['\r', '\n'] _)
  | case6 _ _ ih =>
      obtain ⟨written, hcontinued, hrest⟩ := Option.bind_eq_some_iff.mp h
      exact ((ih written hrest).trans (suffix_afterContinuation? hcontinued)).trans
        (List.suffix_append ['\\', '\n'] _)
  | case7 _ _ ih =>
      obtain ⟨written, hcontinued, hrest⟩ := Option.bind_eq_some_iff.mp h
      exact ((ih written hrest).trans (suffix_afterContinuation? hcontinued)).trans
        (List.suffix_cons _ _)
  | case8 _ _ _ _ ih =>
      obtain ⟨written, hescape, hrest⟩ := Option.bind_eq_some_iff.mp h
      exact ((ih written hrest).trans (suffix_afterEscape? hescape)).trans (List.suffix_cons _ _)
  | case9 _ _ _ _ _ _ _ _ _ ih => exact (ih h).trans (List.suffix_cons _ _)

theorem suffix_afterRawQuoted? {kind : Charset} {hashes : List Char}
    (h : afterRawQuoted? kind hashes cs = some rest) : rest <:+ cs := by
  fun_induction afterRawQuoted? kind hashes cs with
  | case1 => cases h
  | case2 _ ih => exact (ih h).trans (List.suffix_append ['\r', '\n'] _)
  | case3 c more _ closed after hafter =>
      cases h
      have hmark : closed = some after → after <:+ more := by
        intro h
        by_cases hc : c = '"'
        · exact suffix_after? ((if_pos hc).symm.trans h)
        · cases (if_neg hc).symm.trans h
      exact ((suffix_afterSuffix _).trans (hmark hafter)).trans (List.suffix_cons _ _)
  | case4 _ _ _ _ _ _ ih => exact (ih h).trans (List.suffix_cons _ _)
  | case5 => cases h

theorem suffix_afterRaw? {kind : Charset} (h : afterRaw? kind cs = some rest) : rest <:+ cs := by
  unfold afterRaw? at h
  simp only at h
  split at h
  · rename_i more hmore
    split at h
    · have hmark : '"' :: more <:+ cs := hmore ▸ List.dropWhile_suffix _
      exact ((suffix_afterRawQuoted? h).trans (List.suffix_cons _ _)).trans hmark
    · cases h
  · cases h

theorem suffix_afterText? {letters : List Char} {kind : Charset}
    (h : afterText? letters kind cs = some rest) : rest <:+ cs := by
  obtain ⟨more, hmore, h⟩ := Option.bind_eq_some_iff.mp h
  refine List.IsSuffix.trans ?_ (suffix_after? hmore)
  split at h
  · exact (suffix_afterQuoted? h).trans (List.suffix_cons _ _)
  · exact (suffix_afterRaw? h).trans (List.suffix_cons _ _)
  · cases h

theorem suffix_afterSingle? {letters : List Char} {kind : Charset}
    (h : afterSingle? letters kind cs = some rest) : rest <:+ cs := by
  obtain ⟨more, hmore, h⟩ := Option.bind_eq_some_iff.mp h
  obtain ⟨inside, hinside, h⟩ := Option.bind_eq_some_iff.mp h
  have hclosed : ∀ {after : List Char}, after <:+ inside →
      (after? ['\''] after).map afterSuffix = some rest → rest <:+ cs := by
    intro after hafter h
    obtain ⟨close, hclose, rfl⟩ := Option.map_eq_some_iff.mp h
    exact (suffix_afterSuffix _).trans ((suffix_after? hclose).trans
      (hafter.trans ((suffix_after? hinside).trans (suffix_after? hmore))))
  split at h
  · obtain ⟨after, hafter, h⟩ := Option.bind_eq_some_iff.mp h
    exact hclosed ((suffix_afterEscape? hafter).trans (List.suffix_cons _ _)) h
  · split at h
    · exact hclosed (List.suffix_cons _ _) h
    · cases h
  · cases h

/-! ## Numbers -/

theorem suffix_untilExponent? {dot : Bool} {d : Digits} (h : untilExponent? dot cs = some d) :
    d.rest <:+ cs := by
  fun_induction untilExponent? dot cs with
  | case1 | case2 | case8 =>
      cases h
      exact List.suffix_rfl
  | case3 => cases h
  | case4 _ _ _ _ _ ih | case6 _ _ _ _ _ ih => exact (ih h).trans (List.suffix_cons _ _)
  | case5 | case7 =>
      cases h
      exact List.suffix_cons _ _

theorem suffix_afterExponent? {signed valued : Bool}
    (h : afterExponent? signed valued cs = some rest) : rest <:+ cs := by
  fun_induction afterExponent? signed valued cs with
  | case2 | case4 | case9 => cases h
  | case1 | case3 | case8 =>
      cases h
      exact List.suffix_rfl
  | case5 | case6 | case7 =>
      rename_i ih
      exact (ih h).trans (List.suffix_cons _ _)

theorem suffix_afterFraction? (h : afterFraction? cs = some rest) : rest <:+ cs := by
  unfold afterFraction? at h
  split at h
  case h_2 => cases h
  case h_1 c more =>
    split at h
    case isFalse => cases h
    case isTrue =>
      obtain ⟨d, hd, h⟩ := Option.bind_eq_some_iff.mp h
      have hmore : d.rest <:+ c :: more := (suffix_untilExponent? hd).trans (List.suffix_cons _ _)
      split at h
      · split at h
        · rename_i after hafter
          cases h
          exact (suffix_afterExponent? hafter).trans hmore
        · split at h
          · cases h
            exact List.drop_suffix _ _
          · cases h
      · split at h
        · exact Option.some.inj h ▸ hmore
        · cases h

theorem suffix_afterDigits? {base : Nat} {empty : Bool}
    (h : afterDigits? base empty cs = some rest) : rest <:+ cs := by
  fun_induction afterDigits? base empty cs with
  | case1 | case3 | case6 | case8 => cases h
  | case2 | case7 | case9 =>
      cases h
      exact List.suffix_rfl
  | case4 | case5 =>
      rename_i ih
      exact (ih h).trans (List.suffix_cons _ _)

theorem suffix_afterWhole? (h : afterWhole? cs = some rest) : rest <:+ cs := by
  unfold afterWhole? at h
  split at h
  · exact (suffix_afterDigits? h).trans (List.suffix_append ['0', 'x'] _)
  · exact (suffix_afterDigits? h).trans (List.suffix_append ['0', 'o'] _)
  · exact (suffix_afterDigits? h).trans (List.suffix_append ['0', 'b'] _)
  · exact suffix_afterDigits? h

theorem suffix_afterNumber? {number : List Char → Option (List Char)}
    (hnumber : ∀ {rest}, number cs = some rest → rest <:+ cs)
    (h : afterNumber? number cs = some rest) : rest <:+ cs := by
  obtain ⟨more, hmore, h⟩ := Option.bind_eq_some_iff.mp h
  exact (suffix_atWordBreak? h).trans ((suffix_afterSuffix _).trans (hnumber hmore))

/-! ## All tokens -/

theorem suffix_orElse {p q : Option (List Char)} (hp : ∀ {rest}, p = some rest → rest <:+ cs)
    (hq : ∀ {rest}, q = some rest → rest <:+ cs) : ∀ {rest}, (p <|> q) = some rest → rest <:+ cs := by
  intro rest h
  cases p with
  | none => exact hq h
  | some after => exact hp h

theorem suffix_afterLiteral? (h : afterLiteral? cs = some rest) : rest <:+ cs :=
  suffix_orElse suffix_afterText? (suffix_orElse suffix_afterText? (suffix_orElse suffix_afterText?
    (suffix_orElse suffix_afterSingle? (suffix_orElse suffix_afterSingle?
      (suffix_orElse (suffix_afterNumber? suffix_afterFraction?)
        (suffix_afterNumber? suffix_afterWhole?)))))) h

theorem suffix_word? {text : List Char} (h : word? cs = some (text, rest)) : rest <:+ cs :=
  ⟨text, word?_append h⟩

theorem word?_ne_nil {text : List Char} (h : word? cs = some (text, rest)) : text ≠ [] := by
  have hplain : ∀ {ds text rest}, plainWord? ds = some (text, rest) → text ≠ [] := by
    intro ds text rest h
    unfold plainWord? at h
    split at h
    · split at h <;> cases h
      exact List.cons_ne_nil _ _
    · cases h
  unfold word? at h
  split at h
  · cases h
  · unfold rawWord? at h
    split at h
    · obtain ⟨⟨name, more⟩, -, h⟩ := Option.bind_eq_some_iff.mp h
      dsimp only at h
      split at h <;> cases h
      exact List.cons_ne_nil _ _
    · exact hplain h

/-- A sign is the first character of a text. -/
theorem eq_cons_of_sign? {c : Char} {joint : Bool} (h : sign? cs = some (c, joint, rest)) :
    cs = c :: rest := by
  obtain ⟨⟨d, more⟩, hany, h⟩ := Option.bind_eq_some_iff.mp h
  have hcs : cs = d :: more := by
    unfold anySign? at hany
    split at hany
    · cases hany
    · split at hany
      · split at hany
        · cases hany
          rfl
        · cases hany
      · cases hany
  simp only at h
  split at h
  · split at h
    · cases h
      exact hcs
    · cases h
  · cases h
    exact hcs

end CaptureTypes.Token
