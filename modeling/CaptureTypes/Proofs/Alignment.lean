/-
# Groups, slots and accessors

Three lists are made of the groups of a pattern: the elements of the array,
by the number of the group; the accessors, by the slot they return; and the
length of the array.  Slots count from 0 and groups from 1, so a shift in
one list would return the capture of another group.  The lists are read off
the emitted tokens and shown to line up with the groups that the engine
reports, for any number and mixture of groups with and without names.
-/
import CaptureTypes.Proofs.Accessor
import CaptureTypes.Proofs.Surface

namespace CaptureTypes

/-- Groups describe the names that a compiled pattern reports: the group at a place has the
number of the place and, as its raw name, the name there or else the number in digits. -/
def Describe (names : List (Option String)) (groups : List Group) : Prop :=
  groups.length = names.length ∧
    ∀ (i : Nat) (name : Option String), names[i]? = some name →
      ∃ g, groups[i]? = some g ∧ g.index = i ∧ g.named = name.isSome ∧
        g.rawName = name.getD (toString i)

theorem describe_listFrom (names : List (Option String)) :
    Describe names (Group.listFrom 0 names) := by
  refine ⟨Group.length_listFrom names 0, fun i name hi => ?_⟩
  refine ⟨.of i name, ?_, rfl, rfl, ?_⟩
  · rw [Group.getElem?_listFrom, hi, Option.map_some, Nat.zero_add]
  · rw [Group.of, Text.ofList_decimal]

namespace Surface

/-- A surface lines up with groups, group 0 included, of which `n` have an accessor: each list
has `n` elements, the accessor in a slot bears the identifier of the group one above it and
returns that slot, and the slot is filled with the number, the name and the capture of that
group. -/
structure AlignedWith (surface : Surface) (groups : List Group) (n : Nat) : Prop where
  slots : surface.slots = n
  groupCount : surface.groupCount = n
  bindings : surface.bindings.length = n
  accessors : surface.accessors.length = n
  accessor : ∀ k < n, ∃ g, groups[k + 1]? = some g ∧
    surface.accessors[k]? = some (g.identifier, k) ∧
    surface.bindings[k]? = some ⟨k + 1, if g.named then some g.rawName else none, k + 1⟩
  inBounds : ∀ a ∈ surface.accessors, a.2 < surface.slots

/-- A key that stands once in a list is found with its value. -/
theorem lookup_eq_some_of_getElem? {α β : Type} [BEq α] [LawfulBEq α] {l : List (α × β)} {i : Nat}
    {a : α} {b : β} (hnodup : (l.map Prod.fst).Nodup) (h : l[i]? = some (a, b)) :
    l.lookup a = some b := by
  induction l generalizing i with
  | nil => cases h
  | cons x l ih =>
      obtain ⟨hx, hl⟩ := List.nodup_cons.mp hnodup
      cases i with
      | zero =>
          cases h
          rw [List.lookup_cons_self]
      | succ i =>
          rw [List.getElem?_cons_succ] at h
          have hmem : a ∈ l.map Prod.fst := List.mem_map_of_mem (List.mem_of_getElem? h)
          have hne : (a == x.1) = false := beq_eq_false_iff_ne.mpr fun heq => hx (heq ▸ hmem)
          rw [List.lookup_cons, hne]
          exact ih hl h

/-- An accessor returns what its slot was filled with. -/
theorem call?_build {surface : Surface} {groups : List Group} {n : Nat}
    (h : surface.AlignedWith groups n) (hnodup : (surface.accessors.map Prod.fst).Nodup)
    (captures : List (Option Capture)) {k : Nat} (hk : k < n) {g : Group}
    (hg : groups[k + 1]? = some g) :
    surface.call? (surface.build captures) g.identifier
      = some ⟨k + 1, if g.named then some g.rawName else none, (captures[k + 1]?).join⟩ := by
  obtain ⟨g', hg', haccessor, hbinding⟩ := h.accessor k hk
  cases hg.symm.trans hg'
  rw [call?, lookup_eq_some_of_getElem? hnodup haccessor, Option.bind_some, build,
    List.getElem?_map, hbinding]
  rfl

end Surface

namespace Spec

variable {s : Spec} {r : Resolved} {names : Names} {ts : List PlainToken}

theorem Generates.length_accessors (h : s.Generates r names ts) {n : Nat}
    (hn : r.compiled.groups.length = n + 1) : names.accessors.length = n := by
  rw [h.accessors, List.length_map, Resolved.accessorGroups, List.length_drop, h.groups,
    Group.length_listFrom, hn, Nat.add_sub_cancel]

theorem Generates.getElem?_accessors (h : s.Generates r names ts) (k : Nat) :
    names.accessors[k]? = r.groups[k + 1]?.map fun g => ⟨g.identifier, g⟩ := by
  rw [h.accessors, List.getElem?_map, Resolved.accessorGroups, List.getElem?_drop, Nat.add_comm]

theorem Generates.alignedWith (h : s.Generates r names ts) {n : Nat}
    (hn : r.compiled.groups.length = n + 1) : (s.surface names).AlignedWith r.groups n := by
  have hlength := h.length_accessors hn
  constructor
  · exact hlength
  · exact hlength
  · rw [surface, List.length_map, hlength]
  · rw [surface, List.length_zipIdx, List.length_map, hlength]
  · intro k hk
    obtain ⟨name, hname⟩ : ∃ name, r.compiled.groups[k + 1]? = some name :=
      ⟨_, List.getElem?_eq_getElem (by omega)⟩
    obtain ⟨g, hg, hindex, -, -⟩ := (h.groups ▸ describe_listFrom r.compiled.groups).2 _ _ hname
    have haccessor := h.getElem?_accessors k
    rw [hg, Option.map_some] at haccessor
    refine ⟨g, hg, ?_, ?_⟩
    · rw [surface, List.getElem?_zipIdx, List.getElem?_map, haccessor]
      simp
    · rw [surface, List.getElem?_map, haccessor, Option.map_some, bindingOf, hindex]
  · intro a ha
    obtain ⟨-, hlt, -⟩ := List.mem_zipIdx ha
    simpa [surface] using hlt

theorem Generates.nodup_accessors (h : s.Generates r names ts) :
    ((s.surface names).accessors.map Prod.fst).Nodup := by
  rw [surface, List.zipIdx_map_fst, h.accessors, List.map_map]
  exact h.admissible.distinct

/-- **Accessors return their own groups.**  Whenever a declaration is generated, of whatever
pattern and options, its groups describe what the engine reports; the lists read off its tokens
line up with them; and the accessor that bears the identifier of a group returns the number, the
name and the capture of that very group, whatever the match captured. -/
theorem generate_alignedWith (h : s.generate.answer = .ok ts) :
    ∃ (r : Resolved) (n : Nat) (surface : Surface),
      s.resolve = .ok r ∧ r.compiled.groups.length = n + 1 ∧
      Describe r.compiled.groups r.groups ∧
      Surface.read? ts = some surface ∧ surface.AlignedWith r.groups n ∧
      ∀ (captures : List (Option Capture)) (k : Nat) (g : Group),
        k < n → r.groups[k + 1]? = some g →
          surface.call? (surface.build captures) g.identifier
            = some ⟨k + 1, if g.named then some g.rawName else none, (captures[k + 1]?).join⟩ := by
  obtain ⟨r, names, hgenerates⟩ := exists_generates h
  have hwhole := (Pattern.isGroupList_of_compile hgenerates.compiled).whole
  obtain ⟨n, hn⟩ : ∃ n, r.compiled.groups.length = n + 1 :=
    Nat.exists_eq_succ_of_ne_zero fun hzero => by
      rw [List.length_eq_zero_iff.mp hzero] at hwhole
      cases hwhole
  have haligned := hgenerates.alignedWith hn
  refine ⟨r, n, s.surface names, hgenerates.resolved, hn, ?_, ?_, haligned, ?_⟩
  · rw [hgenerates.groups]
    exact describe_listFrom r.compiled.groups
  · rw [hgenerates.tokens]
    exact read?_tokensWith s names
  · intro captures k g hk hg
    exact Surface.call?_build haligned hgenerates.nodup_accessors captures hk hg

/-- A group with a name before one without. -/
theorem generate_alignedWith_mixed :
    ∃ (ts : List PlainToken) (r : Resolved) (n : Nat) (surface : Surface),
      (Spec.of "M" "(?<a>x)(y)").generate.answer = .ok ts ∧
      (Spec.of "M" "(?<a>x)(y)").resolve = .ok r ∧ r.compiled.groups.length = n + 1 ∧
      Surface.read? ts = some surface ∧ surface.AlignedWith r.groups n := by
  obtain ⟨ts, hts⟩ := exists_of_isOk
    (x := (Spec.of "M" "(?<a>x)(y)").generate.answer) (by decide +kernel)
  obtain ⟨r, n, surface, hr, hn, -, hread, haligned, -⟩ := generate_alignedWith hts
  exact ⟨ts, r, n, surface, hts, hr, hn, hread, haligned⟩

end Spec

end CaptureTypes
