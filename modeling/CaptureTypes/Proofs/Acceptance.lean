/-
# Which patterns are accepted

A declaration whose pattern compiles, and whose type and modules have names,
can still be refused for the names of its groups.  Where these are names of
ASCII, it is said here exactly when: it is a property of the names alone,
and it speaks of no identifier, keyword or list of names seen.

The chain of checks comes down to `Admissible`, which asks something of
every group and something of every two (`admissible_iff`); what it asks of
a group is decided by the name of the group, or by its having none.
-/
import CaptureTypes.Proofs.Accessor
import CaptureTypes.Proofs.PlainName
import Mathlib.Data.List.Nodup

namespace CaptureTypes

open Pattern (IsGroupList)
open Token (IsPlainWord)

/-! ## Groups by their places -/

theorem getElem?_accessorGroups (names : List (Option String)) (k : Nat) :
    ((Group.listFrom 0 names).drop 1)[k]? = names[k + 1]?.map (Group.of (k + 1)) := by
  rw [List.getElem?_drop, Group.getElem?_listFrom, Nat.zero_add, Nat.add_comm]

/-- What is asked of the groups with an accessor, by the places of their names. -/
theorem admissible_iff {names : List (Option String)} :
    Emission.Admissible [] ((Group.listFrom 0 names).drop 1) ↔
      (∀ i name, names[i + 1]? = some name →
        (Token.name? (Group.of (i + 1) name).identifier).isSome ∧
          (Group.of (i + 1) name).identifier ∉ Emission.reservedNames) ∧
      ∀ i j a b, i < j → names[i + 1]? = some a → names[j + 1]? = some b →
        (Group.of (i + 1) a).identifier ≠ (Group.of (j + 1) b).identifier := by
  have hmem : ∀ {i name}, names[i + 1]? = some name →
      Group.of (i + 1) name ∈ (Group.listFrom 0 names).drop 1 := fun {i name} h =>
    List.mem_of_getElem? (by rw [getElem?_accessorGroups, h, Option.map_some])
  constructor
  · intro h
    refine ⟨fun i name hi => ⟨h.named _ (hmem hi), h.free _ (hmem hi)⟩, ?_⟩
    intro i j a b hij hi hj heq
    have hlookup : ∀ {k name}, names[k + 1]? = some name →
        (((Group.listFrom 0 names).drop 1).map Group.identifier)[k]?
          = some (Group.of (k + 1) name).identifier := fun {k name} hk => by
      rw [List.getElem?_map, getElem?_accessorGroups, hk, Option.map_some, Option.map_some]
    have hlt := (List.getElem?_eq_some_iff.mp (hlookup hj)).1
    refine List.nodup_iff_getElem?_ne_getElem?.mp h.distinct i j hij hlt ?_
    rw [hlookup hi, hlookup hj, heq]
  · rintro ⟨heach, hpairs⟩
    have hplace : ∀ g ∈ (Group.listFrom 0 names).drop 1,
        ∃ i name, names[i + 1]? = some name ∧ g = Group.of (i + 1) name := by
      intro g hg
      obtain ⟨i, hi⟩ := List.mem_iff_getElem?.mp hg
      rw [getElem?_accessorGroups] at hi
      obtain ⟨name, hname, rfl⟩ := Option.map_eq_some_iff.mp hi
      exact ⟨i, name, hname, rfl⟩
    constructor
    · intro g hg
      obtain ⟨i, name, hname, rfl⟩ := hplace g hg
      exact (heach i name hname).1
    · intro g hg
      obtain ⟨i, name, hname, rfl⟩ := hplace g hg
      exact (heach i name hname).2
    · exact fun _ _ => List.not_mem_nil
    · refine List.nodup_iff_getElem?_ne_getElem?.mpr fun i j hij hlt heq => ?_
      rw [List.length_map] at hlt
      have hj := List.getElem?_eq_getElem hlt
      have hi := List.getElem?_eq_getElem (Nat.lt_trans hij hlt)
      rw [List.getElem?_map, List.getElem?_map, hi, hj, Option.map_some, Option.map_some,
        Option.some_inj] at heq
      rw [getElem?_accessorGroups] at hi hj
      obtain ⟨a, ha, hga⟩ := Option.map_eq_some_iff.mp hi
      obtain ⟨b, hb, hgb⟩ := Option.map_eq_some_iff.mp hj
      rw [← hga, ← hgb] at heq
      exact hpairs i j a b hij ha hb heq

/-! ## The names of groups -/

/-- What is asked of the names of groups: none becomes a keyword or the name of a constant, no
two differ only in the case of their first letter, and none reads as the word "group" with the
number of a group that has no name. -/
structure NamesAccepted (names : List (Option String)) : Prop where
  noKeyword : ∀ n, some n ∈ names → n ≠ "self" ∧ n ≠ "Self" ∧ n ≠ "_"
  noConstant : ∀ n, some n ∈ names →
    n ≠ "PATTERN" ∧ n ≠ "pATTERN" ∧ n ≠ "GROUP_COUNT" ∧ n ≠ "gROUP_COUNT"
  noCase : ∀ m n, some m ∈ names → some n ∈ names → ¬ DifferInCase m n
  noNumber : ∀ n k, some n ∈ names → 1 ≤ k → names[k]? = some none →
    n ≠ "group" ++ toString k ∧ n ≠ "Group" ++ toString k

section

variable {names : List (Option String)} (hlist : IsGroupList names)
  (hplain : ∀ n, some n ∈ names → IsPlainWord n.toList)

include hlist in
/-- A name stands at a place after that of group 0. -/
theorem exists_place {n : String} (h : some n ∈ names) : ∃ i, names[i + 1]? = some (some n) := by
  obtain ⟨i, hi⟩ := List.mem_iff_getElem?.mp h
  cases i with
  | zero => cases hlist.whole.symm.trans hi
  | succ i => exact ⟨i, hi⟩

include hplain in
theorem identifier_of_named {i : Nat} {n : String} (h : names[i + 1]? = some (some n)) :
    (Group.of (i + 1) (some n)).identifier = capitalized n :=
  legalize_plain (hplain n (List.mem_of_getElem? h))

include hlist hplain

theorem namesAccepted_of_admissible
    (h : Emission.Admissible [] ((Group.listFrom 0 names).drop 1)) : NamesAccepted names := by
  obtain ⟨heach, hpairs⟩ := admissible_iff.mp h
  have hapart : ∀ {i j a b}, i ≠ j → names[i + 1]? = some a → names[j + 1]? = some b →
      (Group.of (i + 1) a).identifier ≠ (Group.of (j + 1) b).identifier := by
    intro i j a b hij ha hb
    rcases Nat.lt_or_gt_of_ne hij with hlt | hgt
    · exact hpairs i j a b hlt ha hb
    · exact (hpairs j i b a hgt hb ha).symm
  constructor
  · intro n hn
    obtain ⟨i, hi⟩ := exists_place hlist hn
    have hname := (heach i _ hi).1
    rw [identifier_of_named hplain hi] at hname
    exact (isSome_name?_capitalized (hplain n hn)).mp hname
  · intro n hn
    obtain ⟨i, hi⟩ := exists_place hlist hn
    have hfree := (heach i _ hi).2
    rw [identifier_of_named hplain hi, capitalized_mem_reservedNames (hplain n hn)] at hfree
    simpa only [not_or] using hfree
  · rintro m n hm hn hcase
    obtain ⟨i, hi⟩ := exists_place hlist hm
    obtain ⟨j, hj⟩ := exists_place hlist hn
    have hsame : capitalized m = capitalized n :=
      (capitalized_inj (hplain m hm) (hplain n hn)).mpr (.inr hcase)
    have hij : i ≠ j := by
      rintro rfl
      cases hi.symm.trans hj
      obtain ⟨c, d, rest, hc, hd, hne, -⟩ := hcase
      cases hc.symm.trans hd
      exact hne rfl
    refine hapart hij hi hj ?_
    rw [identifier_of_named hplain hi, identifier_of_named hplain hj, hsame]
  · intro n k hn hk hnone
    obtain ⟨i, hi⟩ := exists_place hlist hn
    obtain ⟨j, rfl⟩ := Nat.exists_eq_add_of_le' hk
    have hij : i ≠ j := by
      rintro rfl
      cases hi.symm.trans hnone
    have hne := hapart hij hi hnone
    rw [identifier_of_named hplain hi, identifier_numbered, ne_eq,
      capitalized_eq_numbered (hplain n hn)] at hne
    simpa only [not_or] using hne

theorem admissible_of_namesAccepted (h : NamesAccepted names) :
    Emission.Admissible [] ((Group.listFrom 0 names).drop 1) := by
  refine admissible_iff.mpr ⟨fun i name hi => ?_, fun i j a b hij hi hj heq => ?_⟩
  · cases name with
    | none =>
        rw [identifier_numbered]
        exact ⟨isSome_name?_numbered _, numbered_not_reserved _⟩
    | some n =>
        have hn := List.mem_of_getElem? hi
        rw [identifier_of_named hplain hi, isSome_name?_capitalized (hplain n hn),
          capitalized_mem_reservedNames (hplain n hn)]
        exact ⟨h.noKeyword n hn, by simpa only [not_or] using h.noConstant n hn⟩
  · cases a with
    | none =>
        cases b with
        | none =>
            rw [identifier_numbered, identifier_numbered] at heq
            have := numbered_inj heq
            omega
        | some n =>
            have hn := List.mem_of_getElem? hj
            rw [identifier_numbered, identifier_of_named hplain hj, eq_comm,
              capitalized_eq_numbered (hplain n hn)] at heq
            obtain ⟨hsmall, hcapital⟩ := h.noNumber n (i + 1) hn (Nat.le_add_left 1 i) hi
            exact heq.elim hsmall hcapital
    | some m =>
        have hm := List.mem_of_getElem? hi
        cases b with
        | none =>
            rw [identifier_numbered, identifier_of_named hplain hi,
              capitalized_eq_numbered (hplain m hm)] at heq
            obtain ⟨hsmall, hcapital⟩ := h.noNumber m (j + 1) hm (Nat.le_add_left 1 j) hj
            exact heq.elim hsmall hcapital
        | some n =>
            have hn := List.mem_of_getElem? hj
            rw [identifier_of_named hplain hi, identifier_of_named hplain hj,
              capitalized_inj (hplain m hm) (hplain n hn)] at heq
            rcases heq with rfl | hcase
            · have := hlist.unique hi hj
              omega
            · exact h.noCase m n hm hn hcase

end

/-! ## Acceptance -/

namespace Spec

/-- Generation answers iff the names of the type and the modules are names, and the groups are
admissible. -/
theorem generate_isOk {s : Spec} {r : Resolved} (hr : s.resolve = .ok r)
    (htype : (Token.name? s.typeName).isSome)
    (hmodules : ∀ segment ∈ s.modulePath, (Token.name? segment).isSome) :
    s.generate.answer.isOk = true ↔ Emission.Admissible [] r.accessorGroups := by
  constructor
  · intro h
    obtain ⟨ts, hts⟩ := exists_of_isOk h
    obtain ⟨r', names, hgenerates⟩ := exists_generates hts
    cases hr.symm.trans hgenerates.resolved
    exact hgenerates.admissible
  · intro h
    obtain ⟨typeName, htypeName⟩ := Option.isSome_iff_exists.mp htype
    obtain ⟨modules, hmodules⟩ := modulesOf_of_names hmodules
    obtain ⟨accessors, haccessors⟩ :
        ∃ accessors, Emission.accessorsOf r.accessorGroups = .ok accessors :=
      Emission.accessorsAfter_of_admissible h
    have hnames : s.namesWith r = .ok ⟨typeName, modules, accessors⟩ :=
      namesWith_ok_iff.mpr ⟨htypeName, hmodules, haccessors⟩
    rw [generate, generateWith_ok_iff.mpr ⟨r, _, hr, hnames, rfl⟩]
    rfl

/-- **Which patterns are accepted.**  Let a pattern compile, the type and the modules have
names, and the groups with names have names of ASCII.  Then the declaration is generated iff the
names of the groups are accepted; nothing else can refuse it.  A pattern whose groups have no
names is always accepted, however many they are. -/
theorem generate_isOk_iff {s : Spec} {r : Resolved} (hr : s.resolve = .ok r)
    (htype : (Token.name? s.typeName).isSome)
    (hmodules : ∀ segment ∈ s.modulePath, (Token.name? segment).isSome)
    (hplain : ∀ n, some n ∈ r.compiled.groups → IsPlainWord n.toList) :
    (s.generate.answer.isOk = true ↔ NamesAccepted r.compiled.groups) ∧
      ((∀ n, some n ∉ r.compiled.groups) → s.generate.answer.isOk = true) := by
  obtain ⟨c, hcompile, rfl⟩ := resolve_ok_iff.mp hr
  have hlist := Pattern.isGroupList_of_compile hcompile
  have hiff := generate_isOk hr htype hmodules
  have haccepted : s.generate.answer.isOk = true ↔ NamesAccepted c.groups := by
    rw [hiff]
    exact ⟨namesAccepted_of_admissible hlist hplain, admissible_of_namesAccepted hlist hplain⟩
  refine ⟨haccepted, fun hnone => haccepted.mpr ?_⟩
  constructor
  · exact fun n hn => absurd hn (hnone n)
  · exact fun n hn => absurd hn (hnone n)
  · exact fun m _ hm => absurd hm (hnone m)
  · exact fun n _ hn => absurd hn (hnone n)

/-- A group that bears the number of another one is refused. -/
theorem generate_isOk_iff_numbered :
    ∃ r, (Spec.of "M" "(?<group2>x)(y)").resolve = .ok r ∧
      ¬ NamesAccepted r.compiled.groups ∧
      (Spec.of "M" "(?<group2>x)(y)").generate.answer.isOk = false := by
  obtain ⟨r, hr⟩ := exists_of_isOk
    (x := (Spec.of "M" "(?<group2>x)(y)").resolve) (by decide +kernel)
  have hgroups : r.compiled.groups = [none, some "group2", none] := by
    have hlist : ((Spec.of "M" "(?<group2>x)(y)").resolve.toOption.map fun r => r.compiled.groups)
        = some [none, some "group2", none] := by decide +kernel
    rw [hr] at hlist
    exact Option.some.inj hlist
  have hplain : ∀ n, some n ∈ r.compiled.groups → IsPlainWord n.toList := by
    intro n hn
    rw [hgroups] at hn
    have hname : n = "group2" := by simpa using hn
    rw [hname]
    exact ⟨rfl, List.all_eq_true.mp rfl⟩
  have hrefused : ¬ NamesAccepted r.compiled.groups := by
    intro h
    rw [hgroups] at h
    exact (h.noNumber "group2" 2 (by decide) (by decide) rfl).1 (by decide)
  have hiff := (generate_isOk_iff hr (by decide +kernel) (by decide) hplain).1
  exact ⟨r, hr, hrefused, Bool.eq_false_iff.mpr fun h => hrefused (hiff.mp h)⟩

end Spec

end CaptureTypes
