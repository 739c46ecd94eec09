/-
# Which violation is reported

A declaration can be wrong in several ways at once, and one of them is
reported.  `Spec.Violates` says which, by what is wrong and not by how it is
looked for: the pattern comes before the name of the type, that before the
modules, the outermost first, and these before the groups.  Of the groups,
the first is reported that fails in any way (`Fails`), and of its failures
the first in the order of `Objection`.

The check itself reads the groups once and keeps what it has seen.  Where it
stops, it has taken the groups before (`accessorsAfter_error`); these are
admissible, so none of them fails, and their identifiers are all different.
That makes the number found among those seen the only one there is.
-/
import CaptureTypes.Proofs.Acceptance
import CaptureTypes.Proofs.UpperCase

namespace CaptureTypes

namespace Emission

/-! ## Objections to a group -/

/-- The group at a place other than the first has the identifier of the one at a later place. -/
def Repeats (gs : List Group) (j i : Nat) : Prop :=
  1 ≤ i ∧ i < j ∧ gs[i]?.map Group.identifier = gs[j]?.map Group.identifier

/-- The group at a place fails: its identifier is no name, or that of a constant, or that of an
earlier group. -/
def Fails (gs : List Group) (j : Nat) : Prop :=
  ∃ g, gs[j]? = some g ∧
    (Token.name? g.identifier = none ∨ g.identifier ∈ reservedNames ∨ ∃ i, Repeats gs j i)

/-- What is said of a group at a place that fails: the first of the three that applies, and of
an identifier that is repeated the only earlier group that has it. -/
inductive Objection (gs : List Group) (j : Nat) : GenerateError → Prop
  | invalid {g : Group} (hg : gs[j]? = some g) (hname : Token.name? g.identifier = none) :
      Objection gs j (.invalidAccessor j g.rawName g.identifier)
  | reserved {g : Group} (hg : gs[j]? = some g) (hname : (Token.name? g.identifier).isSome)
      (hreserved : g.identifier ∈ reservedNames) :
      Objection gs j (.reservedAccessor j g.identifier)
  | duplicate {g : Group} {i : Nat} (hg : gs[j]? = some g)
      (hname : (Token.name? g.identifier).isSome) (hfree : g.identifier ∉ reservedNames)
      (honly : ∀ k, Repeats gs j k ↔ k = i) :
      Objection gs j (.duplicateAccessor g.identifier i j)

/-- An objection to the first group after group 0 that fails. -/
def FirstObjection (gs : List Group) (e : GenerateError) : Prop :=
  ∃ j, 1 ≤ j ∧ Objection gs j e ∧ ∀ i, 1 ≤ i → i < j → ¬ Fails gs i

theorem Objection.fails {gs : List Group} {j : Nat} {e : GenerateError} (h : Objection gs j e) :
    Fails gs j := by
  cases h with
  | invalid hg hname => exact ⟨_, hg, .inl hname⟩
  | reserved hg hname hreserved => exact ⟨_, hg, .inr (.inl hreserved)⟩
  | duplicate hg hname hfree honly => exact ⟨_, hg, .inr (.inr ⟨_, (honly _).mpr rfl⟩)⟩

/-- There is one thing to say about a group. -/
theorem Objection.unique {gs : List Group} {j : Nat} {e e' : GenerateError}
    (h : Objection gs j e) (h' : Objection gs j e') : e = e' := by
  cases h with
  | invalid hg hname =>
      cases h' with
      | invalid hg' hname' =>
          cases hg.symm.trans hg'
          rfl
      | reserved hg' hname' hreserved' =>
          cases hg.symm.trans hg'
          simp [hname] at hname'
      | duplicate hg' hname' hfree' honly' =>
          cases hg.symm.trans hg'
          simp [hname] at hname'
  | reserved hg hname hreserved =>
      cases h' with
      | invalid hg' hname' =>
          cases hg.symm.trans hg'
          simp [hname'] at hname
      | reserved hg' hname' hreserved' =>
          cases hg.symm.trans hg'
          rfl
      | duplicate hg' hname' hfree' honly' =>
          cases hg.symm.trans hg'
          exact absurd hreserved hfree'
  | duplicate hg hname hfree honly =>
      cases h' with
      | invalid hg' hname' =>
          cases hg.symm.trans hg'
          simp [hname'] at hname
      | reserved hg' hname' hreserved' =>
          cases hg.symm.trans hg'
          exact absurd hreserved' hfree
      | duplicate hg' hname' hfree' honly' =>
          cases hg.symm.trans hg'
          rw [(honly' _).mp ((honly _).mpr rfl)]

theorem FirstObjection.unique {gs : List Group} {e e' : GenerateError}
    (h : FirstObjection gs e) (h' : FirstObjection gs e') : e = e' := by
  obtain ⟨j, hj, hobjection, hbefore⟩ := h
  obtain ⟨j', hj', hobjection', hbefore'⟩ := h'
  rcases Nat.lt_trichotomy j j' with hlt | rfl | hlt
  · exact absurd hobjection.fails (hbefore' j hj hlt)
  · exact hobjection.unique hobjection'
  · exact absurd hobjection'.fails (hbefore j' hj' hlt)

/-! ## Where the check stops -/

/-- The identifiers of groups with their numbers, the latest first: what the check keeps. -/
def marks (gs : List Group) : List (String × Nat) :=
  (gs.map fun g => (g.identifier, g.index)).reverse

theorem marks_cons (g : Group) (gs : List Group) :
    marks (g :: gs) = marks gs ++ [(g.identifier, g.index)] := by
  rw [marks, List.map_cons, List.reverse_cons, marks]

theorem mem_marks {gs : List Group} {identifier : String} {index : Nat} :
    (identifier, index) ∈ marks gs ↔
      ∃ g ∈ gs, g.identifier = identifier ∧ g.index = index := by
  simp [marks]

/-- **Where the check fails**, it has taken the groups before, and it fails for the group there
with exactly those seen. -/
theorem accessorsAfter_error {seen : List (String × Nat)} {gs : List Group} {e : GenerateError}
    (h : accessorsAfter seen gs = .error e) :
    ∃ before g after, gs = before ++ g :: after ∧
      (∃ as, accessorsAfter seen before = .ok as) ∧
      accessorOf (marks before ++ seen) g = .error e := by
  induction gs generalizing seen with
  | nil => cases h
  | cons g gs ih =>
      rw [accessorsAfter_cons] at h
      split at h
      · rename_i e' he
        cases h
        exact ⟨[], g, gs, rfl, ⟨[], rfl⟩, he⟩
      · rename_i a ha
        split at h
        · rename_i e' he
          cases h
          obtain ⟨before, x, after, rfl, ⟨as, has⟩, hx⟩ := ih he
          refine ⟨g :: before, x, after, rfl, ⟨a :: as, ?_⟩, ?_⟩
          · rw [accessorsAfter_cons, ha, has]
          · rw [marks_cons, List.append_assoc]
            exact hx
        · cases h

/-- Why one group is refused, by its identifier and those seen. -/
theorem accessorOf_error {seen : List (String × Nat)} {g : Group} {e : GenerateError}
    (h : accessorOf seen g = .error e) :
    (Token.name? g.identifier = none ∧ e = .invalidAccessor g.index g.rawName g.identifier) ∨
    (Token.name? g.identifier).isSome ∧
      (g.identifier ∈ reservedNames ∧ e = .reservedAccessor g.index g.identifier ∨
        g.identifier ∉ reservedNames ∧ ∃ first, (g.identifier, first) ∈ seen ∧
          e = .duplicateAccessor g.identifier first g.index) := by
  unfold accessorOf at h
  split at h
  · rename_i hname
    cases h
    exact .inl ⟨hname, rfl⟩
  · rename_i method hname
    refine .inr ⟨by rw [hname, Option.isSome_some], ?_⟩
    split at h
    · rename_i hreserved
      cases h
      exact .inl ⟨hreserved, rfl⟩
    · rename_i hfree
      split at h
      · rename_i first hfirst
        cases h
        exact .inr ⟨hfree, first, Text.Uppercase.mem_of_lookup_eq_some hfirst, rfl⟩
      · cases h

/-! ## Groups by their places -/

section
variable {gs before rest after : List Group} {g : Group} {j : Nat}

/-- The groups taken stand at the places after the first. -/
theorem getElem?_taken (hgs : gs.drop 1 = before ++ rest) {n : Nat} (hn : n < before.length) :
    gs[n + 1]? = before[n]? := by
  rw [Nat.add_comm, ← List.getElem?_drop, hgs, List.getElem?_append_left hn]

/-- The group refused stands at the place after them. -/
theorem getElem?_refused (hgs : gs.drop 1 = before ++ g :: after) :
    gs[before.length + 1]? = some g := by
  rw [Nat.add_comm, ← List.getElem?_drop, hgs, List.getElem?_append_right (Nat.le_refl _),
    Nat.sub_self, List.getElem?_cons_zero]

/-- Groups that are admissible do not fail, whatever comes after them. -/
theorem not_fails_of_admissible (hgs : gs.drop 1 = before ++ rest) (h : Admissible [] before)
    (hj : 1 ≤ j) (hle : j ≤ before.length) : ¬ Fails gs j := by
  obtain ⟨n, rfl⟩ : ∃ n, j = n + 1 := ⟨j - 1, by omega⟩
  rintro ⟨g, hg, hcause⟩
  rw [getElem?_taken hgs hle] at hg
  have hmem : g ∈ before := List.mem_of_getElem? hg
  rcases hcause with hname | hreserved | ⟨i, hi, hij, heq⟩
  · have hsome : (Token.name? g.identifier).isSome := h.named g hmem
    rw [hname] at hsome
    cases hsome
  · exact h.free g hmem hreserved
  · obtain ⟨m, rfl⟩ : ∃ m, i = m + 1 := ⟨i - 1, by omega⟩
    have hmn : m < n := Nat.lt_of_succ_lt_succ hij
    rw [getElem?_taken hgs (Nat.lt_trans hmn hle), getElem?_taken hgs hle,
      ← List.getElem?_map, ← List.getElem?_map] at heq
    have hlt : n < (before.map Group.identifier).length := by
      rw [List.length_map]
      exact hle
    exact List.nodup_iff_getElem?_ne_getElem?.mp h.distinct m n hmn hlt heq

/-- Where no group before fails, no two of them have the identifier of the group there: the
later would fail. -/
theorem not_lt_of_repeats (hbefore : ∀ i, 1 ≤ i → i < j → ¬ Fails gs i) (hg : gs[j]? = some g)
    {a b : Nat} (ha : Repeats gs j a) (hb : Repeats gs j b) : ¬ a < b := by
  intro hab
  obtain ⟨ha1, -, haeq⟩ := ha
  obtain ⟨hb1, hbj, hbeq⟩ := hb
  obtain ⟨y, hy, -⟩ : ∃ y, gs[b]? = some y ∧ y.identifier = g.identifier := by
    rw [hg, Option.map_some, Option.map_eq_some_iff] at hbeq
    exact hbeq
  have hrepeats : Repeats gs b a := ⟨ha1, hab, haeq.trans hbeq.symm⟩
  exact hbefore b hb1 hbj ⟨y, hy, .inr (.inr ⟨a, hrepeats⟩)⟩

end

/-! ## The check of the groups -/

/-- Groups whose numbers are their places. -/
def IsNumbered (gs : List Group) : Prop := ∀ (j : Nat) (g : Group), gs[j]? = some g → g.index = j

theorem isNumbered_listFrom (names : List (Option String)) :
    IsNumbered (Group.listFrom 0 names) := by
  intro j g h
  rw [Group.getElem?_listFrom, Nat.zero_add] at h
  obtain ⟨name, -, rfl⟩ := Option.map_eq_some_iff.mp h
  rfl

section
variable {gs : List Group} (hnumbered : IsNumbered gs)
include hnumbered

/-- The number found for an identifier that was seen is the only earlier place of it. -/
theorem repeats_iff_of_mem_marks {before after : List Group} {g : Group} {first : Nat}
    (hgs : gs.drop 1 = before ++ g :: after) (h : Admissible [] before)
    (hfirst : (g.identifier, first) ∈ marks before) (k : Nat) :
    Repeats gs (before.length + 1) k ↔ k = first := by
  obtain ⟨x, hx, hidentifier, rfl⟩ := mem_marks.mp hfirst
  obtain ⟨n, hn⟩ := List.mem_iff_getElem?.mp hx
  have hlt : n < before.length := (List.getElem?_eq_some_iff.mp hn).1
  have hplace : gs[n + 1]? = some x := by rw [getElem?_taken hgs hlt, hn]
  have hg := getElem?_refused hgs
  have hrepeats : Repeats gs (before.length + 1) (n + 1) := by
    refine ⟨Nat.le_add_left 1 n, Nat.add_lt_add_right hlt 1, ?_⟩
    rw [hplace, hg, Option.map_some, Option.map_some, hidentifier]
  have hbefore : ∀ i, 1 ≤ i → i < before.length + 1 → ¬ Fails gs i := fun i hi hlt =>
    not_fails_of_admissible hgs h hi (Nat.le_of_lt_succ hlt)
  rw [hnumbered (n + 1) x hplace]
  constructor
  · intro hk
    exact Nat.le_antisymm (Nat.le_of_not_lt (not_lt_of_repeats hbefore hg hrepeats hk))
      (Nat.le_of_not_lt (not_lt_of_repeats hbefore hg hk hrepeats))
  · rintro rfl
    exact hrepeats

/-- What the check of numbered groups says is the first objection. -/
theorem firstObjection_of_error {e : GenerateError} (h : accessorsOf (gs.drop 1) = .error e) :
    FirstObjection gs e := by
  obtain ⟨before, g, after, hgs, ⟨as, has⟩, hrefused⟩ := accessorsAfter_error h
  obtain ⟨hadmissible, -, -⟩ := accessorsAfter_ok has
  rw [List.append_nil] at hrefused
  have hg := getElem?_refused hgs
  have hindex : g.index = before.length + 1 := hnumbered _ g hg
  refine ⟨before.length + 1, Nat.le_add_left 1 _, ?_, fun i hi hlt =>
    not_fails_of_admissible hgs hadmissible hi (Nat.le_of_lt_succ hlt)⟩
  obtain ⟨hname, rfl⟩ | ⟨hname, ⟨hreserved, rfl⟩ | ⟨hfree, first, hfirst, rfl⟩⟩ :=
    accessorOf_error hrefused
  · rw [hindex]
    exact .invalid hg hname
  · rw [hindex]
    exact .reserved hg hname hreserved
  · rw [hindex]
    exact .duplicate hg hname hfree (repeats_iff_of_mem_marks hnumbered hgs hadmissible hfirst)

/-- Numbered groups are taken iff none of them fails. -/
theorem accessorsOf_ok_iff :
    (∃ as, accessorsOf (gs.drop 1) = .ok as) ↔ ∀ j, 1 ≤ j → ¬ Fails gs j := by
  constructor
  · rintro ⟨as, has⟩ j hj hfails
    obtain ⟨hadmissible, -, -⟩ := accessorsAfter_ok has
    have hlt : j < gs.length := by
      obtain ⟨g, hg, -⟩ := hfails
      exact (List.getElem?_eq_some_iff.mp hg).1
    refine not_fails_of_admissible (List.append_nil _).symm hadmissible hj ?_ hfails
    rw [List.length_drop]
    omega
  · intro h
    cases has : accessorsOf (gs.drop 1) with
    | ok as => exact ⟨as, rfl⟩
    | error e =>
        obtain ⟨j, hj, hobjection, -⟩ := firstObjection_of_error hnumbered has
        exact absurd hobjection.fails (h j hj)

/-- Numbered groups are refused with the first objection and nothing else. -/
theorem accessorsOf_error_iff {e : GenerateError} :
    accessorsOf (gs.drop 1) = .error e ↔ FirstObjection gs e := by
  refine ⟨firstObjection_of_error hnumbered, fun h => ?_⟩
  cases has : accessorsOf (gs.drop 1) with
  | ok as =>
      obtain ⟨j, hj, hobjection, -⟩ := h
      exact absurd hobjection.fails ((accessorsOf_ok_iff hnumbered).mp ⟨as, has⟩ j hj)
  | error e' => rw [(firstObjection_of_error hnumbered has).unique h]

end

end Emission

/-! ## The check of the modules -/

/-- The modules are refused for the outermost that has no name. -/
theorem modulesOf_error_iff {segments : List String} {e : GenerateError} :
    modulesOf segments = .error e ↔
      ∃ before segment after, segments = before ++ segment :: after ∧
        (∀ x ∈ before, (Token.name? x).isSome) ∧ Token.name? segment = none ∧
        e = .invalidModulePath segment := by
  constructor
  · intro h
    induction segments with
    | nil => cases h
    | cons segment rest ih =>
        rw [modulesOf_cons] at h
        split at h
        · rename_i hname
          cases h
          exact ⟨[], segment, rest, rfl, fun _ h => absurd h List.not_mem_nil, hname, rfl⟩
        · rename_i name hname
          split at h
          · rename_i e' he
            cases h
            obtain ⟨before, x, after, rfl, hbefore, hx, rfl⟩ := ih he
            refine ⟨segment :: before, x, after, rfl, List.forall_mem_cons.mpr ⟨?_, hbefore⟩,
              hx, rfl⟩
            rw [hname, Option.isSome_some]
          · cases h
  · rintro ⟨before, segment, after, rfl, hbefore, hname, rfl⟩
    induction before with
    | nil => rw [List.nil_append, modulesOf_cons, hname]
    | cons x before ih =>
        obtain ⟨hx, hrest⟩ := List.forall_mem_cons.mp hbefore
        obtain ⟨name, hx⟩ := Option.isSome_iff_exists.mp hx
        rw [List.cons_append, modulesOf_cons, hx, ih hrest]

theorem modulesOf_ok_iff {segments : List String} :
    (∃ modules, modulesOf segments = .ok modules) ↔
      ∀ segment ∈ segments, (Token.name? segment).isSome := by
  refine ⟨?_, modulesOf_of_names⟩
  rintro ⟨modules, h⟩
  induction segments generalizing modules with
  | nil => exact fun _ h => absurd h List.not_mem_nil
  | cons segment rest ih =>
      rw [modulesOf_cons] at h
      split at h
      · cases h
      · rename_i name hname
        split at h
        · cases h
        · rename_i names hnames
          refine List.forall_mem_cons.mpr ⟨?_, ih names hnames⟩
          rw [hname, Option.isSome_some]

/-! ## The whole check -/

namespace Spec

/-- What a declaration is refused for: the first thing that is wrong with it. -/
inductive Violates (s : Spec) : GenerateError → Prop
  | pattern {e : Pattern.CompileError} (hcompile : s.recipe.compile = .error e) :
      Violates s (.patternCompilation e)
  | typeName {c : Pattern.Compiled} (hcompile : s.recipe.compile = .ok c)
      (hname : Token.name? s.typeName = none) : Violates s (.invalidTypeName s.typeName)
  | modulePath {c : Pattern.Compiled} {before after : List String} {segment : String}
      (hcompile : s.recipe.compile = .ok c) (hname : (Token.name? s.typeName).isSome)
      (hpath : s.modulePath = before ++ segment :: after)
      (hbefore : ∀ x ∈ before, (Token.name? x).isSome) (hsegment : Token.name? segment = none) :
      Violates s (.invalidModulePath segment)
  | accessor {c : Pattern.Compiled} {e : GenerateError} (hcompile : s.recipe.compile = .ok c)
      (hname : (Token.name? s.typeName).isSome)
      (hpath : ∀ x ∈ s.modulePath, (Token.name? x).isSome)
      (hgroups : Emission.FirstObjection (Group.listFrom 0 c.groups) e) : Violates s e

/-- A declaration in which nothing is wrong. -/
structure IsSound (s : Spec) (c : Pattern.Compiled) : Prop where
  compiled : s.recipe.compile = .ok c
  name : (Token.name? s.typeName).isSome
  path : ∀ x ∈ s.modulePath, (Token.name? x).isSome
  groups : ∀ j, 1 ≤ j → ¬ Emission.Fails (Group.listFrom 0 c.groups) j

theorem resolve_error_iff {s : Spec} {e : GenerateError} :
    s.resolve = .error e ↔ ∃ e', s.recipe.compile = .error e' ∧ e = .patternCompilation e' := by
  unfold resolve
  cases s.recipe.compile with
  | error e' => simp [eq_comm]
  | ok c => simp

/-- The names are checked in turn. -/
theorem namesWith_error_iff {s : Spec} {r : Resolved} {e : GenerateError} :
    s.namesWith r = .error e ↔
      (Token.name? s.typeName = none ∧ e = .invalidTypeName s.typeName) ∨
      (Token.name? s.typeName).isSome ∧
        (modulesOf s.modulePath = .error e ∨
          (∃ modules, modulesOf s.modulePath = .ok modules) ∧
            Emission.accessorsOf r.accessorGroups = .error e) := by
  unfold namesWith
  cases Token.name? s.typeName with
  | none => simp [eq_comm]
  | some typeName =>
      cases modulesOf s.modulePath with
      | error e' => simp
      | ok modules =>
          cases Emission.accessorsOf r.accessorGroups with
          | error e' => simp
          | ok accessors => simp

/-- What is reported is the first violation. -/
theorem violates_of_error {s : Spec} {around : Surroundings} {e : GenerateError}
    (h : (s.generateWith around).answer = .error e) : s.Violates e := by
  obtain hresolve | ⟨r, hresolve, hnames⟩ := generateWith_error_iff.mp h
  · obtain ⟨e', hcompile, rfl⟩ := resolve_error_iff.mp hresolve
    exact .pattern hcompile
  obtain ⟨c, hcompile, rfl⟩ := resolve_ok_iff.mp hresolve
  obtain ⟨hname, rfl⟩ | ⟨hname, hmodules | ⟨hmodules, haccessors⟩⟩ := namesWith_error_iff.mp hnames
  · exact .typeName hcompile hname
  · obtain ⟨before, segment, after, hpath, hbefore, hsegment, rfl⟩ := modulesOf_error_iff.mp hmodules
    exact .modulePath hcompile hname hpath hbefore hsegment
  · have hgroups := Emission.firstObjection_of_error (Emission.isNumbered_listFrom c.groups) haccessors
    exact .accessor hcompile hname (modulesOf_ok_iff.mp hmodules) hgroups

/-- The first violation is reported. -/
theorem error_of_violates {s : Spec} (around : Surroundings) {e : GenerateError}
    (h : s.Violates e) : (s.generateWith around).answer = .error e := by
  have hresolve : ∀ {c}, s.recipe.compile = .ok c →
      s.resolve = .ok ⟨c, Group.listFrom 0 c.groups⟩ := fun hcompile =>
    resolve_ok_iff.mpr ⟨_, hcompile, rfl⟩
  refine generateWith_error_iff.mpr ?_
  cases h with
  | pattern hcompile => exact .inl (resolve_error_iff.mpr ⟨_, hcompile, rfl⟩)
  | typeName hcompile hname =>
      exact .inr ⟨_, hresolve hcompile, namesWith_error_iff.mpr (.inl ⟨hname, rfl⟩)⟩
  | modulePath hcompile hname hpath hbefore hsegment =>
      have hmodules : modulesOf s.modulePath = .error _ :=
        modulesOf_error_iff.mpr ⟨_, _, _, hpath, hbefore, hsegment, rfl⟩
      exact .inr ⟨_, hresolve hcompile, namesWith_error_iff.mpr (.inr ⟨hname, .inl hmodules⟩)⟩
  | accessor hcompile hname hpath hgroups =>
      have haccessors : Emission.accessorsOf ((Group.listFrom 0 _).drop 1) = .error e :=
        (Emission.accessorsOf_error_iff (Emission.isNumbered_listFrom _)).mpr hgroups
      exact .inr ⟨_, hresolve hcompile,
        namesWith_error_iff.mpr (.inr ⟨hname, .inr ⟨modulesOf_ok_iff.mpr hpath, haccessors⟩⟩)⟩

/-- A declaration is generated iff nothing is wrong with it. -/
theorem ok_iff_isSound {s : Spec} (around : Surroundings) :
    (∃ ts, (s.generateWith around).answer = .ok ts) ↔ ∃ c, s.IsSound c := by
  constructor
  · rintro ⟨ts, hts⟩
    obtain ⟨r, names, hresolve, hnames, -⟩ := generateWith_ok_iff.mp hts
    obtain ⟨c, hcompile, rfl⟩ := resolve_ok_iff.mp hresolve
    obtain ⟨hname, hmodules, haccessors⟩ := namesWith_ok_iff.mp hnames
    refine ⟨c, hcompile, ?_, modulesOf_ok_iff.mp ⟨_, hmodules⟩, ?_⟩
    · rw [hname, Option.isSome_some]
    · exact (Emission.accessorsOf_ok_iff (Emission.isNumbered_listFrom c.groups)).mp
        ⟨_, haccessors⟩
  · rintro ⟨c, hcompile, hname, hpath, hgroups⟩
    obtain ⟨typeName, hname⟩ := Option.isSome_iff_exists.mp hname
    obtain ⟨modules, hmodules⟩ := modulesOf_ok_iff.mpr hpath
    obtain ⟨accessors, haccessors⟩ :=
      (Emission.accessorsOf_ok_iff (Emission.isNumbered_listFrom c.groups)).mpr hgroups
    have hnames : s.namesWith ⟨c, Group.listFrom 0 c.groups⟩
        = .ok ⟨typeName, modules, accessors⟩ :=
      namesWith_ok_iff.mpr ⟨hname, hmodules, haccessors⟩
    exact ⟨_, generateWith_ok_iff.mpr
      ⟨_, _, resolve_ok_iff.mpr ⟨c, hcompile, rfl⟩, hnames, rfl⟩⟩

/-- **The first violation is reported.**  Whatever the surroundings, a declaration is refused
for `e` iff `e` is the first thing wrong with it, and it is generated iff nothing is wrong. -/
theorem reports_first_violation (s : Spec) (around : Surroundings) :
    (∀ e, (s.generateWith around).answer = .error e ↔ s.Violates e) ∧
      ((∃ ts, (s.generateWith around).answer = .ok ts) ↔ ∃ c, s.IsSound c) :=
  ⟨fun _ => ⟨violates_of_error, error_of_violates around⟩, ok_iff_isSound around⟩

/-- Of two groups with one identifier and a third without, the repetition is found first. -/
example : ((Spec.of "T" "(?P<a>x)(?P<A>y)(?P<self>z)").inModule "m::n").generate.answer
    = .error (.duplicateAccessor "A" 1 2) := by
  decide +kernel

end Spec

end CaptureTypes
