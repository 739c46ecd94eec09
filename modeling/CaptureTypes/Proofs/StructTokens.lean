/-
# The tokens of a struct

What is read as a struct is spelled as one (`spells_of_readTokens`): after
attributes and visibility come `struct` and the name, then the generics,
and last the fields with the `where` clause.  The extents that are kept of
it are those of tokens: of the signs around the parameters, and of the
group that holds the fields.

Each part is spelled by what its reader takes from the front.  What is read
inside the parts is only known to be tokens of theirs.
-/
import CaptureTypes.Proofs.Consumption
import CaptureTypes.Proofs.UnitStruct

namespace CaptureTypes.Grammar

variable {α β : Type} {i j k : Input}

/-! ## How the parts are spelled -/

/-- Generics, with the extent from one angle bracket to the other if there are parameters. -/
inductive SpellsGenerics : List SourceToken → Option Extent → Prop
  | absent : SpellsGenerics [] none
  | empty {e f : Extent} {a b : Bool} : SpellsGenerics [.sign e '<' a, .sign f '>' b] none
  | parameters {e f : Extent} {a b : Bool} {inner : List SourceToken} :
      SpellsGenerics (.sign e '<' a :: (inner ++ [.sign f '>' b])) (some (e.through f))

/-- A `where` clause, if there is one. -/
inductive SpellsClause : List SourceToken → Bool → Prop
  | absent : SpellsClause [] false
  | clause {e : Extent} {conditions : List SourceToken} :
      SpellsClause (.word e "where" :: conditions) true

/-- What comes after the generics, with whether there is a `where` clause; it comes after the
fields of a tuple and before all others. -/
inductive SpellsBody : List SourceToken → Bool → Fields → Prop
  | unit {clause : List SourceToken} {hasWhere a : Bool} {e : Extent} :
      SpellsClause clause hasWhere → SpellsBody (clause ++ [.sign e ';' a]) hasWhere .unit
  | tuple {clause inner : List SourceToken} {hasWhere a : Bool} {e f : Extent} :
      SpellsClause clause hasWhere →
      SpellsBody (.group e .parenthesis inner :: (clause ++ [.sign f ';' a])) hasWhere (.tuple e)
  | named {clause inner : List SourceToken} {hasWhere : Bool} {e : Extent} :
      SpellsClause clause hasWhere →
      SpellsBody (clause ++ [.group e .brace inner]) hasWhere (.named e)

/-- A struct. -/
inductive SpellsStruct : List SourceToken → Placeholder → Prop
  | mk {front generics body : List SourceToken} {e f : Extent} {p : Placeholder} :
      SpellsGenerics generics p.parameters → SpellsBody body p.hasWhere p.fields →
      SpellsStruct (front ++ .word e "struct" :: .word f p.name :: (generics ++ body)) p

section

variable {ts : List SourceToken} {p : Placeholder}

/-- The extent of fields is that of the group that holds them. -/
theorem SpellsStruct.group_mem {e : Extent} (h : SpellsStruct ts p)
    (he : p.fields.extent? = some e) :
    ∃ d inner, d ≠ Delimiter.bracket ∧ Token.group e d inner ∈ ts := by
  obtain @⟨front, generics, body, _, _, p, -, hbody⟩ := h
  suffices hmem : ∃ d inner, d ≠ Delimiter.bracket ∧ Token.group e d inner ∈ body by
    obtain ⟨d, inner, hd, hmem⟩ := hmem
    exact ⟨d, inner, hd, by simp [hmem]⟩
  generalize p.fields = fields at he hbody
  cases hbody with
  | unit => cases he
  | @tuple clause inner =>
      cases he
      exact ⟨.parenthesis, inner, by decide, List.mem_cons_self⟩
  | @named clause inner =>
      cases he
      exact ⟨.brace, inner, by decide, List.mem_append_right _ List.mem_cons_self⟩

/-- The extent of parameters goes from one angle bracket to the other. -/
theorem SpellsStruct.parameters_eq {e : Extent} (h : SpellsStruct ts p)
    (he : p.parameters = some e) :
    ∃ us f a inner g b vs, ts = us ++ .sign f '<' a :: (inner ++ .sign g '>' b :: vs) ∧
      e = f.through g := by
  obtain @⟨front, generics, body, q, r, p, hgenerics, -⟩ := h
  generalize p.parameters = parameters at he hgenerics
  cases hgenerics with
  | absent | empty => cases he
  | @parameters f g a b inner =>
      cases he
      exact ⟨front ++ [.word q "struct", .word r p.name], f, a, inner, g, b, body, by simp, rfl⟩

/-- A `where` clause begins with its word. -/
theorem SpellsStruct.where_mem (h : SpellsStruct ts p) (hwhere : p.hasWhere = true) :
    ∃ e, Token.word e "where" ∈ ts := by
  obtain @⟨front, generics, body, _, _, p, -, hbody⟩ := h
  suffices hmem : ∃ e, Token.word e "where" ∈ body by
    obtain ⟨e, hmem⟩ := hmem
    exact ⟨e, by simp [hmem]⟩
  rw [hwhere] at hbody
  generalize p.fields = fields at hbody
  cases hbody with
  | unit hclause | tuple hclause | named hclause =>
      cases hclause
      rename_i e conditions
      exact ⟨e, by simp⟩

end

/-! ## Generics -/

/-- The extent that is kept of a sign before it is read is its own. -/
theorem tokens_of_frontExtent {text : String} {c : Char} {e : Extent} {s : Shape}
    (htext : text.toList = [c]) (hc : c ≠ '\'') (he : frontExtent i = .ok (e, j))
    (hs : sign text j = .ok (s, k)) : ∃ joint, i.tokens = .sign e c joint :: k.tokens := by
  have hj : j = i := by
    unfold frontExtent at he
    split at he <;> (cases he; rfl)
  obtain ⟨e', joint, hi⟩ := tokens_of_sign htext hs
  rw [hj] at hi
  unfold frontExtent at he
  split at he
  · rename_i heq
    rw [hi] at heq
    exact absurd (Token.sign.inj (List.cons.inj heq).1).2.1 hc
  · cases he
    rw [Input.front, hi]
    exact ⟨joint, rfl⟩

/-- A list in which nothing was read took nothing. -/
theorem eq_of_separated_nil {stop : List SourceToken → Bool} {separator : String}
    {item : Reading α} (h : separated stop separator item i = .ok ([], j)) : j = i := by
  obtain ⟨n, i', hroom, h⟩ := bind_eq_ok_iff.mp h
  cases hroom
  rw [listUntil, sees_bind] at h
  split at h
  · cases h
    rfl
  · obtain ⟨a, i₁, -, h⟩ := bind_eq_ok_iff.mp h
    rw [sees_bind] at h
    split at h
    · cases h
    · obtain ⟨_, i₂, -, h⟩ := bind_eq_ok_iff.mp h
      obtain ⟨_, i₃, -, h⟩ := bind_eq_ok_iff.mp h
      cases h

section

variable {inside : Inside} [ConsumesInside inside]

theorem spells_generics {parameters : Option Extent}
    (h : generics inside i = .ok (parameters, j)) :
    ∃ ts, i.tokens = ts ++ j.tokens ∧ SpellsGenerics ts parameters := by
  rw [generics, sees_bind] at h
  split at h
  · cases h
    exact ⟨[], rfl, .absent⟩
  · obtain ⟨start, i', hstart, h⟩ := bind_eq_ok_iff.mp h
    obtain ⟨_, i₁, hleft, h⟩ := bind_eq_ok_iff.mp h
    obtain ⟨items, i₂, hitems, h⟩ := bind_eq_ok_iff.mp h
    obtain ⟨stop, i₂', hstop, h⟩ := bind_eq_ok_iff.mp h
    obtain ⟨_, i₃, hright, h⟩ := bind_eq_ok_iff.mp h
    cases h
    obtain ⟨a, hi⟩ := tokens_of_frontExtent (c := '<') rfl (by decide) hstart hleft
    obtain ⟨b, hi₂⟩ := tokens_of_frontExtent (c := '>') rfl (by decide) hstop hright
    cases items with
    | nil =>
        rw [← eq_of_separated_nil hitems, hi₂] at hi
        exact ⟨[_, _], hi, .empty⟩
    | cons item items =>
        obtain ⟨inner, hinner⟩ := Consumes.suffix hitems
        refine ⟨.sign start '<' a :: (inner ++ [.sign stop '>' b]), ?_, .parameters⟩
        rw [hi, ← hinner, hi₂]
        simp

/-! ## The `where` clause and the fields -/

theorem spells_clause {hasWhere : Bool} {f : Unit → Reading β} {b : β}
    (hwhere : isWord "where" i.tokens = hasWhere)
    (h : (if hasWhere = true then whereClause inside >>= f else f ()) i = .ok (b, k)) :
    ∃ clause j, i.tokens = clause ++ j.tokens ∧ SpellsClause clause hasWhere ∧
      f () j = .ok (b, k) := by
  subst hwhere
  split at h
  · rename_i hword
    obtain ⟨_, j, hclause, h⟩ := bind_eq_ok_iff.mp h
    obtain ⟨_, i', hhead, hconditions⟩ := bind_eq_ok_iff.mp hclause
    obtain ⟨e, hi⟩ := tokens_of_word hhead
    obtain ⟨_, i₂, hlist, hend⟩ := bind_eq_ok_iff.mp hconditions
    cases hend
    obtain ⟨conditions, hi'⟩ := Consumes.suffix hlist
    refine ⟨.word e "where" :: conditions, j, ?_, ?_, h⟩
    · rw [hi, ← hi']
      rfl
    · rw [hword]
      exact .clause
  · rename_i hword
    rw [Bool.not_eq_true] at hword
    rw [hword]
    exact ⟨[], i, rfl, .absent, h⟩

theorem spells_body {hasWhere : Bool} {fields : Fields}
    (h : body inside i = .ok ((hasWhere, fields), j)) :
    ∃ ts, i.tokens = ts ++ j.tokens ∧ SpellsBody ts hasWhere fields := by
  rw [body, sees_bind] at h
  generalize hwhere : isWord "where" i.tokens = w at h
  obtain ⟨clause, i₁, hi, hclause, h⟩ := spells_clause hwhere h
  rw [hi]
  dsimp only at h
  rw [sees_bind] at h
  split at h
  case isTrue htuple =>
    obtain ⟨⟨e, _⟩, i₂, hfields, h⟩ := bind_eq_ok_iff.mp h
    obtain ⟨inner, hi₁⟩ := tokens_of_within hfields
    dsimp only at h
    rw [sees_bind] at h
    generalize hwhere' : isWord "where" i₂.tokens = w' at h
    obtain ⟨clause', i₃, hi₂, hclause', h⟩ := spells_clause hwhere' h
    -- No clause comes before the fields of a tuple.
    have hw : w = false := (Bool.not_eq_true' w).mp (Bool.and_eq_true_iff.mp htuple).1
    rw [hw] at hclause
    cases hclause
    rw [sees_bind] at h
    split at h
    · obtain ⟨_, i₄, hsign, h⟩ := bind_eq_ok_iff.mp h
      cases h
      obtain ⟨f, joint, hi₃⟩ := tokens_of_sign (c := ';') rfl hsign
      refine ⟨.group e .parenthesis inner :: (clause' ++ [.sign f ';' joint]), ?_, .tuple hclause'⟩
      simp [hi₁, hi₂, hi₃]
    · cases h
  case isFalse =>
    rw [sees_bind] at h
    split at h
    · obtain ⟨⟨e, _⟩, i₂, hfields, h⟩ := bind_eq_ok_iff.mp h
      obtain ⟨inner, hi₁⟩ := tokens_of_within hfields
      cases h
      exact ⟨clause ++ [.group e .brace inner], by simp [hi₁], .named hclause⟩
    · rw [sees_bind] at h
      split at h
      · obtain ⟨_, i₂, hsign, h⟩ := bind_eq_ok_iff.mp h
        cases h
        obtain ⟨e, joint, hi₁⟩ := tokens_of_sign (c := ';') rfl hsign
        exact ⟨clause ++ [.sign e ';' joint], by simp [hi₁], .unit hclause⟩
      · cases h

end

/-! ## Structs -/

/-- **What is read as a struct is spelled as one.** -/
theorem spells_of_readTokens {ts : List SourceToken} {p : Placeholder}
    (h : readTokens placeholder ts = .ok p) : SpellsStruct ts p := by
  obtain ⟨scope, h⟩ := readTokens_eq_ok_iff.mp h
  obtain ⟨attributes, i₁, hattributes, h⟩ := bind_eq_ok_iff.mp h
  obtain ⟨shown, i₂, hshown, h⟩ := bind_eq_ok_iff.mp h
  obtain ⟨_, i₃, hstruct, h⟩ := bind_eq_ok_iff.mp h
  obtain ⟨name, i₄, hname, h⟩ := bind_eq_ok_iff.mp h
  obtain ⟨_, _, hinside, h⟩ := bind_eq_ok_iff.mp h
  cases hinside
  obtain ⟨parameters, i₅, hgenerics, h⟩ := bind_eq_ok_iff.mp h
  obtain ⟨⟨hasWhere, fields⟩, i₆, hbody, h⟩ := bind_eq_ok_iff.mp h
  cases h
  obtain ⟨as, has⟩ := Consumes.suffix hattributes
  obtain ⟨vs, hvs⟩ := Consumes.suffix hshown
  obtain ⟨e, he⟩ := tokens_of_word hstruct
  obtain ⟨f, hf⟩ := tokens_of_identifier hname
  obtain ⟨generics, hi₄, hgenerics⟩ := spells_generics hgenerics
  obtain ⟨body, hi₅, hbody⟩ := spells_body hbody
  have hts : ts = (as ++ vs) ++ .word e "struct" :: .word f name :: (generics ++ body) := by
    rw [show ts = _ from has.symm, ← hvs, he, hf, hi₄, hi₅]
    simp
  rw [hts]
  exact .mk (p := ⟨attributes, shown, name, parameters, hasWhere, fields⟩) hgenerics hbody

end CaptureTypes.Grammar
