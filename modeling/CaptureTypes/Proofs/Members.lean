/-
# The names of members

A matcher type has eleven members of its own and an accessor for each group,
and the trait of the runtime lends it more.  Only two of these names are
refused to accessors by name.  The others begin with a small letter, which
no identifier of a group does, in whatever script the group is named; and
the accessors are kept apart from each other as they are taken.
-/
import CaptureTypes.Proofs.Alignment

namespace CaptureTypes

/-- The names of the members of the trait that matcher types implement. -/
def traitNames : List String :=
  ["PATTERN", "regex", "from_captures", "captures", "groups", "is_match", "find", "try_match",
    "matches", "value", "range"]

namespace Spec

variable {s : Spec} {r : Resolved} {names : Names} {ts : List PlainToken}

theorem Generates.accessors_fst (h : s.Generates r names ts) :
    (s.surface names).accessors.map Prod.fst = r.accessorGroups.map Group.identifier := by
  rw [surface, List.zipIdx_map_fst, h.accessors, List.map_map]
  rfl

theorem Generates.isIdentifier (h : s.Generates r names ts) {g : Group}
    (hg : g ∈ r.accessorGroups) : IsIdentifier g.identifier.toList := by
  rw [Resolved.accessorGroups, h.groups] at hg
  exact Group.isIdentifier_of_mem_listFrom (Pattern.isGroupList_of_compile h.compiled)
    (List.mem_of_mem_drop hg)

/-- A name that begins with a small letter, or is reserved, is the name of no accessor. -/
theorem Generates.not_accessor (h : s.Generates r names ts) {name : String}
    (hname : beginsSmall name = true ∨ name ∈ Emission.reservedNames) :
    name ∉ r.accessorGroups.map Group.identifier := by
  intro hmem
  obtain ⟨g, hg, rfl⟩ := List.mem_map.mp hmem
  rcases hname with hsmall | hreserved
  · rw [beginsSmall_of_isIdentifier (h.isIdentifier hg)] at hsmall
    cases hsmall
  · exact h.admissible.free g hg hreserved

/-- **No two members of a matcher type have one name**, the accessors included, and no accessor
has the name of a member of the trait or of the method that displays a match.  This holds
whatever the groups are named in the pattern. -/
theorem generate_members_distinct (h : s.generate.answer = .ok ts) :
    ∃ (r : Resolved) (surface : Surface),
      s.resolve = .ok r ∧ Surface.read? ts = some surface ∧
      surface.accessors.map Prod.fst = r.accessorGroups.map Group.identifier ∧
      surface.members = ["PATTERN", "GROUP_COUNT", "regex", "is_match", "find", "try_match",
        "matches", "value", "range", "raw_match", "groups"] ++ surface.accessors.map Prod.fst ∧
      surface.members.Nodup ∧
      ∀ a ∈ surface.accessors, a.1 ∉ traitNames ∧ a.1 ≠ "fmt" := by
  obtain ⟨r, names, hgenerates⟩ := exists_generates h
  have hread : Surface.read? ts = some (s.surface names) := by
    rw [hgenerates.tokens]
    exact read?_tokensWith s names
  have haccessors := hgenerates.accessors_fst
  have hmembers : (s.surface names).members
      = fixedNames ++ (s.surface names).accessors.map Prod.fst := by
    rw [surface, List.zipIdx_map_fst]
  refine ⟨r, s.surface names, hgenerates.resolved, hread, haccessors, hmembers, ?_, ?_⟩
  · have hfixed : ∀ name ∈ fixedNames,
        beginsSmall name = true ∨ name ∈ Emission.reservedNames := by decide
    rw [hmembers, haccessors]
    refine List.nodup_append.mpr ⟨by decide, hgenerates.admissible.distinct, ?_⟩
    rintro name hname _ hmem rfl
    exact hgenerates.not_accessor (hfixed name hname) hmem
  · have htrait : ∀ name ∈ "fmt" :: traitNames,
        beginsSmall name = true ∨ name ∈ Emission.reservedNames := by decide
    intro a ha
    have hmem : a.1 ∈ r.accessorGroups.map Group.identifier :=
      haccessors ▸ List.mem_map_of_mem ha
    constructor
    · exact fun hname => hgenerates.not_accessor (htrait _ (List.mem_cons_of_mem _ hname)) hmem
    · exact fun hname => hgenerates.not_accessor (htrait _ (hname ▸ List.mem_cons_self)) hmem

/-- Groups named as members of the type, of the trait and of the display. -/
theorem generate_members_distinct_lowercase :
    ∃ (ts : List PlainToken) (surface : Surface),
      (Spec.of "M" "(?<regex>x)(?<fmt>y)(z)").generate.answer = .ok ts ∧
      Surface.read? ts = some surface ∧ surface.members.Nodup ∧
      ∀ a ∈ surface.accessors, a.1 ∉ traitNames ∧ a.1 ≠ "fmt" := by
  obtain ⟨ts, hts⟩ := exists_of_isOk
    (x := (Spec.of "M" "(?<regex>x)(?<fmt>y)(z)").generate.answer) (by decide +kernel)
  obtain ⟨r, surface, -, hread, -, -, hnodup, htrait⟩ := generate_members_distinct hts
  exact ⟨ts, surface, hts, hread, hnodup, htrait⟩

end Spec

end CaptureTypes
