/-
# What a compiled pattern finds

A compiled pattern has no group 0 but the whole match, so its program is
framed, and a search answers with the range from where its match starts to
where it ends.  `searchAt_some` says what a search is worth: the match starts
at the place of the search or after it, a search from any place between finds
the same match, and the groups are within it.  `matchesIn_eq` compares the
search that only asks whether there is a match.
-/
import CaptureTypes.Proofs.ProgramShape

namespace CaptureTypes.Pattern

/-- The history that a search from a place finds: its match goes from one place to another, with the
groups between, and a search from any place up to its start finds it again. -/
structure Located (p : Program) (s : Spot) (found : History) (a b : Spot) : Prop where
  later : s.Reaches a
  stop : a.Reaches b
  whole : lastRange 0 found = some (a.bytes, b.bytes)
  groups : ∀ g range, lastRange g found = some range → a.Spans b range
  between : ∀ q : Spot, s.Reaches q → q.Reaches a → search p q = some found

/-- A search locates its match. -/
theorem search_some {p : Program} (hp : p.IsFramed) (hmoves : p.HasMoves) {s : Spot}
    {found : History} (h : search p s = some found) : ∃ a b, Located p s found a b := by
  -- the first start that has a match is this one, or one from the next place on
  have here {s : Spot} (h : search p s = some found) (hrace : race p s [p.first] = some found) :
      ∃ a b, Located p s found a b := by
    obtain ⟨b, hb, hwhole, hgroups⟩ := ranges_of_race hp hmoves hrace
    exact ⟨s, b, .refl, hb, hwhole, hgroups, fun q hq hqs => hq.antisymm hqs ▸ h⟩
  induction s using Spot.induct with
  | stop bytes before =>
      have hrace := h
      rw [search_eq hmoves] at hrace
      exact here h ((Option.or_eq_some_iff.mp hrace).resolve_right fun hnext => by cases hnext.2)
  | pass bytes before c rest ih =>
      have hrace := h
      rw [search_eq hmoves] at hrace
      rcases Option.or_eq_some_iff.mp hrace with hrace | ⟨-, hnext⟩
      · exact here h hrace
      · obtain ⟨a, b, hfound⟩ := ih hnext
        refine ⟨a, b, Spot.Reaches.refl.pass.trans hfound.later, hfound.stop, hfound.whole,
          hfound.groups, fun q hq hqa => ?_⟩
        rcases hq.eq_or_next with rfl | ⟨n, hn, hq⟩
        · exact h
        · cases hn
          exact hfound.between q hq hqa

namespace Compiled

variable {r : Recipe} {c : Compiled}

theorem isFramed (h : r.compile = .ok c) : c.program.IsFramed := by
  obtain ⟨e, hmeaning, rfl⟩ := Recipe.compile_ok h
  exact Program.isFramed_ofExpression (wellNamed_of_meaning hmeaning).positive

theorem hasMoves (h : r.compile = .ok c) : c.program.HasMoves := by
  obtain ⟨e, -, rfl⟩ := Recipe.compile_ok h
  exact Program.hasMoves_ofExpression e

theorem searchAt_eq_some_iff {s : Spot} {found : (Nat × Nat) × Ranges} :
    c.searchAt s = some found ↔ ∃ history, search c.program s = some history ∧
      lastRange 0 history = some found.1 ∧
      found.2 = (List.range c.groups.length).map fun g => lastRange g history := by
  constructor
  · intro h
    obtain ⟨history, hsearch, h⟩ := Option.bind_eq_some_iff.mp h
    obtain ⟨whole, hwhole, h⟩ := Option.bind_eq_some_iff.mp h
    cases h
    exact ⟨history, hsearch, hwhole, rfl⟩
  · rintro ⟨history, hsearch, hwhole, hgroups⟩
    refine Option.bind_eq_some_iff.mpr ⟨history, hsearch, ?_⟩
    exact Option.bind_eq_some_iff.mpr ⟨found.1, hwhole, by rw [← hgroups]⟩

/-- **What a search finds.**  The match starts where the search does or later, ends there or
later, and is found from every place between the two starts; its groups are within it. -/
theorem searchAt_some (h : r.compile = .ok c) {s : Spot} {found : (Nat × Nat) × Ranges}
    (hs : c.searchAt s = some found) :
    ∃ a b : Spot, s.Reaches a ∧ a.Reaches b ∧ found.1 = (a.bytes, b.bytes) ∧
      (∀ q : Spot, s.Reaches q → q.Reaches a → c.searchAt q = some found) ∧
      ∀ range, some range ∈ found.2 → a.Spans b range := by
  obtain ⟨history, hsearch, hwhole, hgroups⟩ := searchAt_eq_some_iff.mp hs
  obtain ⟨a, b, hfound⟩ := search_some (isFramed h) (hasMoves h) hsearch
  refine ⟨a, b, hfound.later, hfound.stop, ?_, fun q hq hqa => ?_, fun range hrange => ?_⟩
  · exact Option.some.inj (hwhole.symm.trans hfound.whole)
  · exact searchAt_eq_some_iff.mpr ⟨history, hfound.between q hq hqa, hwhole, hgroups⟩
  · rw [hgroups] at hrange
    obtain ⟨g, -, hg⟩ := List.mem_map.mp hrange
    exact hfound.groups g range hg

/-- The search that only asks whether there is a match agrees with the one for its groups. -/
theorem matchesIn_eq (h : r.compile = .ok c) (text : List Char) :
    c.matchesIn text = (c.searchIn text).isSome := by
  rw [matchesIn, occurs_eq, searchIn]
  cases hsearch : search c.program (.start text) with
  | none =>
      rw [searchAt, hsearch]
      rfl
  | some history =>
      obtain ⟨a, b, hfound⟩ := search_some (isFramed h) (hasMoves h) hsearch
      rw [searchAt, hsearch, Option.bind_eq_bind, Option.bind_some, hfound.whole]
      rfl

end Compiled

end CaptureTypes.Pattern
