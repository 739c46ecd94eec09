/-
# When a declaration is generated

Generation is a chain of checks.  `Admissible` is what the check of the
accessors asks of the groups, without the order in which it asks; the check
answers iff the groups are admissible (`accessorsAfter_ok`,
`accessorsAfter_of_admissible`), and then with the groups themselves, each
under the name in its identifier.  `generateWith_ok_iff` takes the whole chain
apart, and `Spec.Generates` is what is left of it: identifiers are names of
their own, so every accessor bears the identifier of its group as it is.
-/
import CaptureTypes.Emission.Generate
import CaptureTypes.Proofs.Identifier

namespace CaptureTypes

namespace Emission

/-! ## Accessors -/

/-- What is asked of groups that come after others with given identifiers: each identifier is
a name, none is that of a constant or one of those before, and no two are the same. -/
structure Admissible (seen : List String) (gs : List Group) : Prop where
  named : ∀ g ∈ gs, (Token.name? g.identifier).isSome
  free : ∀ g ∈ gs, g.identifier ∉ reservedNames
  fresh : ∀ g ∈ gs, g.identifier ∉ seen
  distinct : (gs.map Group.identifier).Nodup

theorem Admissible.nil (seen : List String) : Admissible seen [] :=
  ⟨fun _ h => absurd h List.not_mem_nil, fun _ h => absurd h List.not_mem_nil,
    fun _ h => absurd h List.not_mem_nil, List.nodup_nil⟩

theorem admissible_cons {seen : List String} {g : Group} {gs : List Group} :
    Admissible seen (g :: gs) ↔
      ((Token.name? g.identifier).isSome ∧ g.identifier ∉ reservedNames ∧ g.identifier ∉ seen) ∧
        Admissible (g.identifier :: seen) gs := by
  constructor
  · intro h
    have hnodup := List.nodup_cons.mp h.distinct
    refine ⟨⟨h.named g List.mem_cons_self, h.free g List.mem_cons_self,
      h.fresh g List.mem_cons_self⟩, ?_⟩
    constructor
    · exact fun x hx => h.named x (List.mem_cons_of_mem _ hx)
    · exact fun x hx => h.free x (List.mem_cons_of_mem _ hx)
    · intro x hx hmem
      rcases List.mem_cons.mp hmem with heq | hmem
      · exact hnodup.1 (heq ▸ List.mem_map_of_mem hx)
      · exact h.fresh x (List.mem_cons_of_mem _ hx) hmem
    · exact hnodup.2
  · rintro ⟨⟨hname, hfree, hfresh⟩, h⟩
    constructor
    · exact List.forall_mem_cons.mpr ⟨hname, h.named⟩
    · exact List.forall_mem_cons.mpr ⟨hfree, h.free⟩
    · refine List.forall_mem_cons.mpr ⟨hfresh, fun x hx hmem => ?_⟩
      exact h.fresh x hx (List.mem_cons_of_mem _ hmem)
    · refine List.nodup_cons.mpr ⟨fun hmem => ?_, h.distinct⟩
      obtain ⟨x, hx, heq⟩ := List.mem_map.mp hmem
      exact h.fresh x hx (heq ▸ List.mem_cons_self)

/-- One group is taken iff its identifier passes all three checks. -/
theorem accessorOf_ok_iff {seen : List (String × Nat)} {g : Group} {a : Accessor} :
    accessorOf seen g = .ok a ↔
      (Token.name? g.identifier = some a.method ∧ a.group = g) ∧
        g.identifier ∉ reservedNames ∧ g.identifier ∉ seen.map Prod.fst := by
  obtain ⟨method, group⟩ := a
  rw [← Pattern.lookup_eq_none_iff_notMem]
  unfold accessorOf
  cases hname : Token.name? g.identifier with
  | none => simp
  | some found =>
      simp only
      split
      · rename_i hreserved
        simp [hreserved]
      · rename_i hfree
        split
        · rename_i hseen
          simp [hseen]
        · rename_i hfresh
          simp [hfree, hfresh, eq_comm]

/-- Each group is checked, and then those after it. -/
theorem accessorsAfter_cons (seen : List (String × Nat)) (g : Group) (gs : List Group) :
    accessorsAfter seen (g :: gs) =
      match accessorOf seen g with
      | .error e => .error e
      | .ok a =>
        match accessorsAfter ((g.identifier, g.index) :: seen) gs with
        | .error e => .error e
        | .ok rest => .ok (a :: rest) := (rfl)

/-- What the check of groups answers with: the groups, each under the name in its identifier. -/
theorem accessorsAfter_ok {seen : List (String × Nat)} {gs : List Group} {as : List Accessor}
    (h : accessorsAfter seen gs = .ok as) :
    Admissible (seen.map Prod.fst) gs ∧ as.map Accessor.group = gs ∧
      ∀ a ∈ as, Token.name? a.group.identifier = some a.method := by
  induction gs generalizing seen as with
  | nil =>
      cases h
      exact ⟨.nil _, rfl, fun _ h => absurd h List.not_mem_nil⟩
  | cons g gs ih =>
      rw [accessorsAfter_cons] at h
      split at h
      · cases h
      · rename_i a ha
        split at h
        · cases h
        · rename_i rest hrest
          cases h
          obtain ⟨⟨hname, rfl⟩, hfree, hfresh⟩ := accessorOf_ok_iff.mp ha
          obtain ⟨hadmissible, hgroups, hmethods⟩ := ih hrest
          refine ⟨admissible_cons.mpr ⟨⟨?_, hfree, hfresh⟩, hadmissible⟩, ?_, ?_⟩
          · rw [hname, Option.isSome_some]
          · rw [List.map_cons, hgroups]
          · exact List.forall_mem_cons.mpr ⟨hname, hmethods⟩

/-- Groups that are admissible are taken. -/
theorem accessorsAfter_of_admissible {seen : List (String × Nat)} {gs : List Group}
    (h : Admissible (seen.map Prod.fst) gs) : ∃ as, accessorsAfter seen gs = .ok as := by
  induction gs generalizing seen with
  | nil => exact ⟨[], rfl⟩
  | cons g gs ih =>
      obtain ⟨⟨hname, hfree, hfresh⟩, hrest⟩ := admissible_cons.mp h
      obtain ⟨method, hmethod⟩ := Option.isSome_iff_exists.mp hname
      have ha : accessorOf seen g = .ok ⟨method, g⟩ :=
        accessorOf_ok_iff.mpr ⟨⟨hmethod, rfl⟩, hfree, hfresh⟩
      obtain ⟨as, has⟩ : ∃ as, accessorsAfter ((g.identifier, g.index) :: seen) gs = .ok as :=
        ih hrest
      exact ⟨⟨method, g⟩ :: as, by rw [accessorsAfter_cons, ha, has]⟩

end Emission

/-! ## The chain of checks -/

theorem exists_of_isOk {ε α : Type} {x : Except ε α} (h : x.isOk = true) : ∃ a, x = .ok a := by
  cases x with
  | error e => cases h
  | ok a => exact ⟨a, rfl⟩

theorem modulesOf_cons (segment : String) (rest : List String) :
    modulesOf (segment :: rest) =
      match Token.name? segment with
      | none => .error (.invalidModulePath segment)
      | some name =>
        match modulesOf rest with
        | .error e => .error e
        | .ok names => .ok (name :: names) := (rfl)

theorem modulesOf_of_names {segments : List String}
    (h : ∀ segment ∈ segments, (Token.name? segment).isSome) :
    ∃ modules, modulesOf segments = .ok modules := by
  induction segments with
  | nil => exact ⟨[], rfl⟩
  | cons segment rest ih =>
      obtain ⟨hsegment, hrest⟩ := List.forall_mem_cons.mp h
      obtain ⟨name, hname⟩ := Option.isSome_iff_exists.mp hsegment
      obtain ⟨modules, hmodules⟩ := ih hrest
      exact ⟨name :: modules, by rw [modulesOf_cons, hname, hmodules]⟩

namespace Spec

theorem resolve_ok_iff {s : Spec} {r : Resolved} :
    s.resolve = .ok r ↔
      ∃ c, s.recipe.compile = .ok c ∧ r = ⟨c, Group.listFrom 0 c.groups⟩ := by
  unfold resolve
  cases s.recipe.compile with
  | error e => simp
  | ok c => simp [eq_comm]

theorem namesWith_ok_iff {s : Spec} {r : Resolved} {names : Names} :
    s.namesWith r = .ok names ↔
      Token.name? s.typeName = some names.typeName ∧ modulesOf s.modulePath = .ok names.modules ∧
        Emission.accessorsOf r.accessorGroups = .ok names.accessors := by
  obtain ⟨typeName, modules, accessors⟩ := names
  unfold namesWith
  cases Token.name? s.typeName with
  | none => simp
  | some typeName' =>
      cases modulesOf s.modulePath with
      | error e => simp
      | ok modules' =>
          cases Emission.accessorsOf r.accessorGroups with
          | error e => simp
          | ok accessors' => simp

/-- In any surroundings, the pattern is resolved and then the names are checked. -/
theorem answer_generateWith_eq (s : Spec) (around : Surroundings) :
    (s.generateWith around).answer =
      match s.resolve with
      | .error e => .error e
      | .ok r =>
        match s.namesWith r with
        | .error e => .error e
        | .ok names => .ok (s.tokensWith names around) := by
  unfold generateWith resolveLogged emit
  cases s.resolve with
  | error e => rfl
  | ok r =>
      simp only [Logged.andThen]
      cases s.namesWith r with
      | error e => rfl
      | ok names => rfl

/-- **Generation answers iff the pattern resolves and the names are well**, and then with the
tokens of the declaration. -/
theorem generateWith_ok_iff {s : Spec} {around : Surroundings} {ts : List PlainToken} :
    (s.generateWith around).answer = .ok ts ↔
      ∃ r names, s.resolve = .ok r ∧ s.namesWith r = .ok names ∧
        ts = s.tokensWith names around := by
  rw [answer_generateWith_eq]
  cases s.resolve with
  | error e => simp
  | ok r => cases hnames : s.namesWith r <;> simp [hnames, eq_comm]

/-- Nothing is generated iff the pattern does not resolve or the names are not well. -/
theorem generateWith_error_iff {s : Spec} {around : Surroundings} {e : GenerateError} :
    (s.generateWith around).answer = .error e ↔
      s.resolve = .error e ∨ ∃ r, s.resolve = .ok r ∧ s.namesWith r = .error e := by
  rw [answer_generateWith_eq]
  cases s.resolve with
  | error e' => simp
  | ok r => cases hnames : s.namesWith r <;> simp [hnames]

/-- What is known of a declaration that was generated: its pattern and groups, and its
accessors, which bear the identifiers of their groups. -/
structure Generates (s : Spec) (r : Resolved) (names : Names) (ts : List PlainToken) : Prop where
  resolved : s.resolve = .ok r
  compiled : s.recipe.compile = .ok r.compiled
  groups : r.groups = Group.listFrom 0 r.compiled.groups
  admissible : Emission.Admissible [] r.accessorGroups
  accessors : names.accessors = r.accessorGroups.map fun g => ⟨g.identifier, g⟩
  tokens : ts = s.tokensWith names .standard

theorem exists_generates {s : Spec} {ts : List PlainToken} (h : s.generate.answer = .ok ts) :
    ∃ r names, s.Generates r names ts := by
  obtain ⟨r, names, hresolve, hnames, htokens⟩ := generateWith_ok_iff.mp h
  obtain ⟨c, hcompile, rfl⟩ := resolve_ok_iff.mp hresolve
  obtain ⟨-, -, haccessors⟩ := namesWith_ok_iff.mp hnames
  obtain ⟨hadmissible, hgroups, hmethods⟩ := Emission.accessorsAfter_ok haccessors
  refine ⟨_, names, hresolve, hcompile, rfl, hadmissible, ?_, htokens⟩
  -- an identifier holds no separator, so the name in it is the identifier itself
  have hself : ∀ a ∈ names.accessors, (⟨a.group.identifier, a.group⟩ : Emission.Accessor) = a := by
    intro a ha
    have hmem := List.mem_of_mem_drop (hgroups ▸ List.mem_map_of_mem ha)
    have hidentifier := Group.isIdentifier_of_mem_listFrom
      (Pattern.isGroupList_of_compile hcompile) hmem
    rw [← Token.eq_of_name? hidentifier.solid (hmethods a ha)]
  rw [← hgroups, List.map_map]
  calc names.accessors = names.accessors.map id := (List.map_id _).symm
    _ = _ := List.map_congr_left fun a ha => (hself a ha).symm

end Spec

end CaptureTypes
