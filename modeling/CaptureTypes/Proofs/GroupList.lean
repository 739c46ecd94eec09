/-
# The groups of a compiled pattern

The meaning of a tree has no group that the tree has not, although it may
drop some: a repetition that never turns is empty.  So what
`wellNamed_of_read` says of the tree holds of the groups of the meaning and
of the names that a compiled pattern lists, whatever the pattern and its
options.
-/
import CaptureTypes.Pattern.Compiled
import CaptureTypes.Proofs.GroupName

namespace CaptureTypes.Pattern

/-! ## The groups of an expression -/

namespace Expression

@[simp] theorem mem_capturesAll {x : Nat × Option String} {es : List Expression} :
    x ∈ capturesAll es ↔ ∃ e ∈ es, x ∈ e.captures := by
  induction es with
  | nil => simp [capturesAll]
  | cons e es ih => simp [capturesAll, ih]

theorem captures_ofSet (set : CharSet) : (ofSet set).captures = [] := by
  unfold ofSet
  split
  · split <;> rfl
  · rfl

theorem captures_repeated (min : Nat) (max : Option Nat) (greedy : Bool) (sub : Expression) :
    (repeated min max greedy sub).captures ⊆ sub.captures := by
  unfold repeated
  simp only
  split
  · exact List.nil_subset _
  · exact List.Subset.refl _
  · rw [captures]
    exact List.Subset.refl _

theorem captures_ofBranches (es : List Expression) : (ofBranches es).captures ⊆ capturesAll es := by
  unfold ofBranches
  split
  · exact fun x hx => mem_capturesAll.mpr ⟨_, List.mem_cons_self, hx⟩
  · split
    · rw [captures_ofSet]
      exact List.nil_subset _
    · exact List.Subset.refl _

theorem captures_ofParts (es : List Expression) : (ofParts es).captures ⊆ capturesAll es := by
  have hfilter : ∀ {p : Expression → Bool} {kept : List Expression} {x : Nat × Option String},
      es.filter p = kept → x ∈ capturesAll kept → x ∈ capturesAll es := by
    rintro p kept x rfl hx
    obtain ⟨e, he, hx⟩ := mem_capturesAll.mp hx
    exact mem_capturesAll.mpr ⟨e, (List.mem_filter.mp he).1, hx⟩
  unfold ofParts
  split
  · exact List.nil_subset _
  · rename_i e heq
    exact fun x hx => hfilter heq (mem_capturesAll.mpr ⟨e, List.mem_cons_self, hx⟩)
  · rename_i heq
    exact fun x hx => hfilter rfl hx

end Expression

namespace Switches

open Expression

theorem captures_literal {s : Switches} {l : Literal} {e : Expression} (h : s.literal l = .ok e) :
    e.captures = [] := by
  unfold literal at h
  split at h
  · exact absurd h refuse_ne_ok
  · split at h
    · cases h
      rfl
    · split at h
      · split at h <;> cases h <;> rfl
      · split at h <;> cases h <;> rfl

theorem captures_dot {s : Switches} {span : Span} {e : Expression} (h : s.dot span = .ok e) :
    e.captures = [] := by
  unfold dot at h
  split at h
  · exact absurd h refuse_ne_ok
  · split at h
    · cases h
      rfl
    · split at h <;> cases h <;> rfl

theorem captures_group (kind : GroupKind) (e : Expression) :
    (group kind e).captures = kind.given ++ e.captures := by
  cases kind <;> rfl

mutual

/-- A group of the meaning is one of the tree. -/
theorem given_of_express {s s' : Switches} {t : Tree} {e : Expression} {x : Nat × Option String}
    (h : s.express t = .ok (e, s')) (hx : x ∈ e.captures) : x ∈ t.given := by
  match t with
  | .nothing _ => cases h; exact absurd hx List.not_mem_nil
  | .flags _ _ => cases h; exact absurd hx List.not_mem_nil
  | .literal l =>
      obtain ⟨e', hl, h⟩ := bind_eq_ok.mp h
      cases h
      exact absurd (captures_literal hl ▸ hx) List.not_mem_nil
  | .dot span =>
      obtain ⟨e', hd, h⟩ := bind_eq_ok.mp h
      cases h
      exact absurd (captures_dot hd ▸ hx) List.not_mem_nil
  | .assertion _ kind => cases h; exact absurd hx List.not_mem_nil
  | .property p =>
      obtain ⟨set, -, h⟩ := bind_eq_ok.mp h
      cases h
      exact absurd (captures_ofSet _ ▸ hx) List.not_mem_nil
  | .perl span negated kind =>
      obtain ⟨set, -, h⟩ := bind_eq_ok.mp h
      cases h
      exact absurd (captures_ofSet _ ▸ hx) List.not_mem_nil
  | .bracket span negated inner =>
      obtain ⟨inside, -, h⟩ := bind_eq_ok.mp h
      obtain ⟨set, -, h⟩ := bind_eq_ok.mp h
      cases h
      exact absurd (captures_ofSet _ ▸ hx) List.not_mem_nil
  | .repetition span min max greedy sub =>
      obtain ⟨⟨e, s₁⟩, hsub, h⟩ := bind_eq_ok.mp h
      cases h
      rw [Tree.given]
      exact given_of_express hsub (captures_repeated _ _ _ _ hx)
  | .group span kind sub =>
      obtain ⟨⟨e, s₁⟩, hsub, h⟩ := bind_eq_ok.mp h
      cases h
      rw [captures_group, List.mem_append] at hx
      rw [Tree.given, List.mem_append]
      exact hx.imp_right (given_of_express hsub)
  | .alternation _ subs =>
      obtain ⟨⟨es, s₁⟩, hsubs, h⟩ := bind_eq_ok.mp h
      cases h
      rw [Tree.given]
      exact given_of_expressAll hsubs (captures_ofBranches es hx)
  | .concat _ subs =>
      obtain ⟨⟨es, s₁⟩, hsubs, h⟩ := bind_eq_ok.mp h
      cases h
      rw [Tree.given]
      exact given_of_expressAll hsubs (captures_ofParts es hx)

theorem given_of_expressAll {s s' : Switches} {ts : List Tree} {es : List Expression}
    {x : Nat × Option String} (h : s.expressAll ts = .ok (es, s')) (hx : x ∈ capturesAll es) :
    x ∈ givenAll ts := by
  match ts with
  | [] => cases h; exact absurd hx List.not_mem_nil
  | t :: ts =>
      obtain ⟨⟨e, s₁⟩, ht, h⟩ := bind_eq_ok.mp h
      obtain ⟨⟨es, s₂⟩, hts, h⟩ := bind_eq_ok.mp h
      cases h
      rw [givenAll, List.mem_append]
      rw [capturesAll, List.mem_append] at hx
      exact hx.imp (given_of_express ht) (given_of_expressAll hts)

end

end Switches

/-! ## The groups of a compiled pattern -/

theorem wellNamed_of_meaning {r : Recipe} {e : Expression} (h : r.meaning = .ok e) :
    WellNamed e.captures := by
  obtain ⟨t, hread, h⟩ := bind_eq_ok.mp h
  obtain ⟨⟨e', s⟩, hexpress, h⟩ := bind_eq_ok.mp h
  cases h
  exact (wellNamed_of_read hread).mono fun _ => Switches.given_of_express hexpress

theorem mem_of_groupNames {captures : List (Nat × Option String)} {i : Nat} {name : String}
    (h : (groupNames captures)[i]? = some (some name)) : (i, some name) ∈ captures := by
  rw [groupNames, List.getElem?_map] at h
  obtain ⟨j, hj, h⟩ := Option.map_eq_some_iff.mp h
  obtain ⟨_, rfl⟩ := List.getElem?_eq_some_iff.mp hj
  rw [List.getElem_range] at h
  obtain ⟨before, after, hl, -⟩ := List.lookup_eq_some_iff.mp (Option.join_eq_some_iff.mp h)
  rw [hl]
  exact List.mem_append_right _ List.mem_cons_self

theorem groupNames_ne_nil (captures : List (Nat × Option String)) : groupNames captures ≠ [] := by
  rw [groupNames, List.range_succ, List.map_append]
  exact List.append_ne_nil_of_right_ne_nil _ (List.cons_ne_nil _ _)

/-- The names of groups as a compiled pattern has them: group 0 has none, the others are told
apart by those they have, and these have the shape of names. -/
structure IsGroupList (names : List (Option String)) : Prop where
  whole : names[0]? = some none
  unique : ∀ {i j : Nat} {name : String},
    names[i]? = some (some name) → names[j]? = some (some name) → i = j
  shaped : ∀ {i : Nat} {name : String}, names[i]? = some (some name) → IsGroupName name.toList

theorem isGroupList_groupNames {captures : List (Nat × Option String)} (h : WellNamed captures) :
    IsGroupList (groupNames captures) where
  whole := by
    obtain ⟨first, hfirst⟩ : ∃ first, (groupNames captures)[0]? = some first :=
      ⟨_, List.getElem?_eq_getElem (List.length_pos_iff.mpr (groupNames_ne_nil captures))⟩
    rw [hfirst]
    cases first with
    | none => rfl
    | some name =>
        have hpos := h.positive _ (mem_of_groupNames hfirst)
        exact absurd hpos (Nat.lt_irrefl 0)
  unique := fun hi hj => h.unique (mem_of_groupNames hi) (mem_of_groupNames hj)
  shaped := fun hi => h.shaped (mem_of_groupNames hi)

/-- What a compiled pattern is made of. -/
theorem Recipe.compile_ok {r : Recipe} {c : Compiled} (h : r.compile = .ok c) :
    ∃ e, r.meaning = .ok e ∧ c = ⟨r.pattern, groupNames e.captures, .ofExpression e⟩ := by
  unfold Recipe.compile at h
  split at h
  · cases h
  · rename_i e hmeaning
    split at h
    · cases h
    · cases h
      exact ⟨e, hmeaning, rfl⟩

/-- **The groups of a compiled pattern.**  Whatever the pattern and the options, group 0 has no
name, no two groups have the same one, and every name has the shape of a name. -/
theorem isGroupList_of_compile {r : Recipe} {c : Compiled} (h : r.compile = .ok c) :
    IsGroupList c.groups := by
  obtain ⟨e, hmeaning, rfl⟩ := Recipe.compile_ok h
  exact isGroupList_groupNames (wellNamed_of_meaning hmeaning)

end CaptureTypes.Pattern
