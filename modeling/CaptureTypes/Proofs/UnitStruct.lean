/-
# What is read of a unit struct

What is read of attributes and visibility depends on their own tokens: what
comes after them may be anything that does not go on with them
(`IsLocalBefore`).  So the tokens of a unit struct are read as the
attributes and the visibility that are read alone, and the name
(`readTokens_placeholder`).
-/
import CaptureTypes.Proofs.Consumption

namespace CaptureTypes.Grammar

variable {α β : Type} {rest : List SourceToken}

/-- Reads the same from tokens that are followed by others, and leaves these alone. -/
structure IsLocalBefore (rest : List SourceToken) (p : Reading α) : Prop where
  append : ∀ {ts : List SourceToken} {scope scope' : Extent} {leftover : Option Complaint} {a : α}
    {j : Input}, p ⟨ts, scope, leftover⟩ = .ok (a, j) →
      p ⟨ts ++ rest, scope', leftover⟩ = .ok (a, ⟨j.tokens ++ rest, scope', j.leftover⟩)

theorem afterSigns?_append {cs : List Char} {ts us : List SourceToken}
    (h : afterSigns? cs ts = some us) : afterSigns? cs (ts ++ rest) = some (us ++ rest) := by
  induction cs generalizing ts with
  | nil =>
      cases h
      rfl
  | cons c cs ih =>
      cases ts with
      | nil => cases h
      | cons t ts =>
          cases t with
          | word | literal | group => cases h
          | sign p d joint =>
              rw [afterSigns?] at h
              rw [List.cons_append, afterSigns?]
              split at h
              · cases h
              · rename_i hd
                rw [if_neg hd]
                split at h
                · rename_i hlast
                  cases h
                  rw [if_pos hlast]
                · rename_i hlast
                  rw [if_neg hlast]
                  split at h
                  · rename_i hjoint
                    rw [if_pos hjoint]
                    exact ih h
                  · cases h

namespace IsLocalBefore

theorem pure (a : α) : IsLocalBefore rest (Pure.pure a : Reading α) := by
  refine ⟨fun {ts scope scope' leftover a' j} h => ?_⟩
  cases h
  rfl

theorem bind {p : Reading α} {f : α → Reading β} (hp : IsLocalBefore rest p)
    (hf : ∀ a, IsLocalBefore rest (f a)) : IsLocalBefore rest (p >>= f) := by
  refine ⟨fun {ts scope scope' leftover b k} h => ?_⟩
  obtain ⟨a, j, ha, hb⟩ := bind_eq_ok_iff.mp h
  rw [bind_of_ok (hp.append ha)]
  exact (hf a).append hb

theorem ite {c : Prop} [Decidable c] {p q : Reading α} (hp : IsLocalBefore rest p)
    (hq : IsLocalBefore rest q) : IsLocalBefore rest (if c then p else q) := by
  split
  · exact hp
  · exact hq

/-- A look ahead that is not changed by what comes after. -/
theorem sees {p : List SourceToken → Bool} (h : ∀ ts, p (ts ++ rest) = p ts) :
    IsLocalBefore rest (Grammar.sees p) := by
  refine ⟨fun {ts scope scope' leftover b j} hb => ?_⟩
  cases hb
  simp only [Grammar.sees, h]

theorem sign (text : String) : IsLocalBefore rest (Grammar.sign text) := by
  refine ⟨fun {ts scope scope' leftover s j} h => ?_⟩
  unfold Grammar.sign at h ⊢
  split at h
  · rename_i us hus
    cases h
    simp only [afterSign?, afterSigns?_append hus]
  · cases h

theorem word (text : String) : IsLocalBefore rest (Grammar.word text) := by
  refine ⟨fun {ts scope scope' leftover s j} h => ?_⟩
  cases ts with
  | nil => cases h
  | cons t ts =>
      cases t with
      | sign | literal | group => cases h
      | word p s =>
          simp only [Grammar.word, List.cons_append] at h ⊢
          split at h
          · rename_i hs
            cases h
            rw [if_pos hs]
          · cases h

/-- What is read of a group depends on the group alone. -/
theorem enclosed (d : Delimiter) (p : Reading Shape) :
    IsLocalBefore rest (Grammar.enclosed d p) := by
  refine bind ?_ fun _ => pure _
  refine ⟨fun {ts scope scope' leftover a j} h => ?_⟩
  cases ts with
  | nil => cases h
  | cons t ts =>
      cases t with
      | word | sign | literal => cases h
      | group place e inner =>
          simp only [within, List.cons_append] at h ⊢
          split at h
          · rename_i hd
            rw [if_pos hd]
            split at h
            · cases h
            · cases h
              rfl
          · cases h

/-- Items are repeated as often, however many tokens come after them, if each takes some. -/
theorem repeated {starts : List SourceToken → Bool} {item : Reading Shape}
    (hstarts : ∀ ts, starts (ts ++ rest) = starts ts) (hitem : IsLocalBefore rest item)
    (hshorter : ∀ {i j : Input} {s : Shape}, item i = .ok (s, j) →
      j.tokens.length < i.tokens.length)
    {n m : Nat} {ts : List SourceToken} {scope scope' : Extent} {leftover : Option Complaint}
    {s : Shape} {j : Input} (hn : ts.length < n) (hm : ts.length < m)
    (h : Grammar.repeated starts item n ⟨ts, scope, leftover⟩ = .ok (s, j)) :
    Grammar.repeated starts item m ⟨ts ++ rest, scope', leftover⟩
      = .ok (s, ⟨j.tokens ++ rest, scope', j.leftover⟩) := by
  induction n generalizing m ts scope leftover s with
  | zero => exact absurd hn (Nat.not_lt_zero _)
  | succ n ih =>
      cases m with
      | zero => exact absurd hm (Nat.not_lt_zero _)
      | succ m =>
          simp only [Grammar.repeated, sees_bind, hstarts] at h ⊢
          split at h
          · rename_i hstop
            rw [if_pos hstop]
            exact (pure _).append h
          · rename_i hgo
            rw [if_neg hgo]
            obtain ⟨a, k, ha, h⟩ := bind_eq_ok_iff.mp h
            obtain ⟨as, k', has, h⟩ := bind_eq_ok_iff.mp h
            cases h
            have hk : k.tokens.length < ts.length := hshorter ha
            rw [bind_of_ok (hitem.append ha), bind_of_ok (ih (by omega) (by omega) has)]
            rfl

end IsLocalBefore

/-! ## Attributes and visibility -/

theorem length_enclosed_lt {d : Delimiter} {p : Reading Shape} {i j : Input} {s : Shape}
    (h : enclosed d p i = .ok (s, j)) : j.tokens.length < i.tokens.length := by
  obtain ⟨a, k, ha, hs⟩ := bind_eq_ok_iff.mp h
  cases hs
  obtain ⟨inner, hi⟩ := tokens_of_within ha
  rw [hi]
  exact Nat.lt_succ_self _

theorem length_outerAttribute_lt {i j : Input} {s : Shape} (h : outerAttribute i = .ok (s, j)) :
    j.tokens.length < i.tokens.length := by
  obtain ⟨mark, k, hmark, h⟩ := bind_eq_ok_iff.mp h
  obtain ⟨group, k', hgroup, h⟩ := bind_eq_ok_iff.mp h
  cases h
  exact Nat.lt_of_lt_of_le (length_enclosed_lt hgroup) (Consumes.suffix hmark).length_le

theorem outerAttributes_before (hrest : isSign "#" rest = false) :
    IsLocalBefore rest outerAttributes := by
  have hsign : ∀ ts, isSign "#" (ts ++ rest) = isSign "#" ts := by
    intro ts
    cases ts with
    | nil => exact hrest
    | cons t ts =>
        cases t with
        | word | literal | group => rfl
        | sign p c joint => by_cases hc : c = '#' <;> simp [isSign, afterSign?, afterSigns?, hc]
  have hitem : IsLocalBefore rest outerAttribute :=
    IsLocalBefore.bind (.sign "#") fun _ => .bind (.enclosed _ _) fun _ => .pure _
  refine ⟨fun {ts scope scope' leftover s j} h => ?_⟩
  have hroom : ts.length < (ts ++ rest).length + 1 := by
    rw [List.length_append]
    omega
  exact IsLocalBefore.repeated hsign hitem length_outerAttribute_lt (Nat.lt_succ_self _) hroom h

theorem visibility_before {p : Extent} {text : String} {after : List SourceToken}
    (hpub : text ≠ "pub") : IsLocalBefore (.word p text :: after) visibility := by
  have hword : ∀ ts, isWord "pub" (ts ++ .word p text :: after) = isWord "pub" ts := by
    intro ts
    cases ts with
    | nil => exact beq_eq_false_iff_ne.mpr hpub
    | cons t ts => cases t <;> rfl
  unfold visibility
  refine IsLocalBefore.bind (.sees hword) fun isPub => .ite (.pure _) (.bind (.word _) fun _ => ?_)
  refine IsLocalBefore.bind (.sees fun ts => ?_) fun _ => .ite (.pure _) ?_
  · cases ts with
    | nil => rfl
    | cons t ts =>
        cases t with
        | word | sign | literal => rfl
        | group place d inner => cases d <;> rfl
  · exact .bind (.enclosed _ _) fun _ => .pure _

/-! ## The struct -/

/-- Tokens are read to their end iff nothing is left over, inside groups or after them. -/
theorem readTokens_eq_ok_iff {p : Reading α} {ts : List SourceToken} {a : α} :
    readTokens p ts = .ok a ↔ ∃ scope, p ⟨ts, .nowhere, none⟩ = .ok (a, ⟨[], scope, none⟩) := by
  unfold readTokens
  cases h : p ⟨ts, .nowhere, none⟩ with
  | error c => simp
  | ok aj =>
      obtain ⟨b, tokens, scope, leftover⟩ := aj
      cases leftover <;> cases tokens <;> simp [Input.unread]

/-- No visibility begins with an attribute. -/
theorem isSign_hash_of_visibility {vs : List SourceToken} {s : Shape} {scope : Extent}
    (h : visibility ⟨vs, .nowhere, none⟩ = .ok (s, ⟨[], scope, none⟩)) {p : Extent}
    {text : String} {after : List SourceToken} :
    isSign "#" (vs ++ .word p text :: after) = false := by
  cases vs with
  | nil => rfl
  | cons t vs =>
      cases t with
      | word | literal | group => rfl
      | sign q c joint => cases h

/-- **The tokens of a unit struct are read as the parts that are read alone.** -/
theorem readTokens_placeholder {as vs : List SourceToken} {attributes shown : Shape}
    {p q r : Extent} {joint : Bool} {name : String}
    (has : readTokens outerAttributes as = .ok attributes)
    (hvs : readTokens visibility vs = .ok shown) (hname : Token.isName name = true) :
    readTokens placeholder
        (as ++ (vs ++ [.word p "struct", .word q name, .sign r ';' joint]))
      = .ok ⟨attributes, shown, name, none, false, .unit⟩ := by
  obtain ⟨scope, has⟩ := readTokens_eq_ok_iff.mp has
  obtain ⟨scope', hvs⟩ := readTokens_eq_ok_iff.mp hvs
  refine readTokens_eq_ok_iff.mpr ⟨.nowhere, ?_⟩
  have hstruct : word "struct"
        ⟨[.word p "struct", .word q name, .sign r ';' joint], .nowhere, none⟩
      = .ok ([.word "struct"], ⟨[.word q name, .sign r ';' joint], .nowhere, none⟩) := rfl
  have hidentifier : identifier ⟨[.word q name, .sign r ';' joint], .nowhere, none⟩
      = .ok (name, ⟨[.sign r ';' joint], .nowhere, none⟩) := if_pos hname
  refine (bind_of_ok
    ((outerAttributes_before (isSign_hash_of_visibility hvs)).append has)).trans ?_
  refine (bind_of_ok
    ((visibility_before (show "struct" ≠ "pub" by decide)).append hvs)).trans ?_
  refine (bind_of_ok hstruct).trans ?_
  refine (bind_of_ok hidentifier).trans ?_
  -- Of a semicolon alone there are no generics and no fields.
  rfl

end CaptureTypes.Grammar
