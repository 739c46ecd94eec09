/-
# What the views of a group say

A group answers with a value, with all its values and their number, with a
range, with whether it took part in the match, and with the capture itself.
All of these are views of one capture of the searched text, or of none
(`Matcher.group_views`): the value is the part of the text in the range, the
range is within that of the match, and a group without a capture differs from
one that captured the empty text wherever the two are told apart, in the text
of the data format too.
-/
import CaptureTypes.Proofs.Captured
import CaptureTypes.Proofs.GroupRecord
import CaptureTypes.Proofs.Queries

namespace CaptureTypes

open Pattern (Recipe Compiled Spot Ranges)

/-! ## Views of one group -/

namespace MatchGroup

/-- The views of a group that took no part in the match. -/
structure IsAbsent (g : MatchGroup) : Prop where
  capture : g.capture = none
  range : g.range = none
  value : g.value = ""
  values : g.values = []
  count : g.captureCount = 0
  unmatched : g.isMatched = false

/-- The views of a group that captured the part of a text between two numbers of bytes. -/
structure Captured (g : MatchGroup) (text : String) (start stop : Nat) : Prop where
  capture : g.capture = some ⟨text, start, stop⟩
  range : g.range = some (start, stop)
  value : Text.IsPart text (start, stop) g.value
  values : g.values = [g.value]
  count : g.captureCount = 1
  matched : g.isMatched = true

/-- The views that only show the value: the display, the comparison with a text, and the text of
the data format, which also tells a group that took part from one that did not. -/
structure ShowsValue (g : MatchGroup) : Prop where
  display : toString g = g.value
  compares : ∀ text, g.holds text = true ↔ g.value = text
  readBack : GroupRecord.form.parse g.toJson.toText = .ok ⟨g.index, g.name, g.value, g.range⟩
  null : g.range = none ↔ g.isMatched = false
  tells : ∀ g' : MatchGroup, g'.isMatched ≠ g.isMatched → g'.toJson.toText ≠ g.toJson.toText

variable {g g' : MatchGroup}

theorem isAbsent_of_capture (h : g.capture = none) : g.IsAbsent := by
  obtain ⟨index, name, capture⟩ := g
  obtain rfl : capture = none := h
  exact ⟨rfl, rfl, rfl, rfl, rfl, rfl⟩

theorem captured_of_capture {text : String} {start stop : Nat}
    (h : g.capture = some ⟨text, start, stop⟩)
    (hpart : Text.IsPart text (start, stop) (⟨text, start, stop⟩ : Capture).value) :
    g.Captured text start stop := by
  obtain ⟨index, name, capture⟩ := g
  obtain rfl : capture = some ⟨text, start, stop⟩ := h
  exact ⟨rfl, rfl, hpart, rfl, rfl, rfl⟩

theorem isMatched_eq (g : MatchGroup) : g.isMatched = g.range.isSome := by
  rw [isMatched, range, Option.isSome_map]

/-- Groups written alike agree on whether they took part. -/
theorem isMatched_eq_of_toText (h : g'.toJson.toText = g.toJson.toText) :
    g'.isMatched = g.isMatched := by
  have hread := GroupRecord.parse_toText g'
  rw [h, GroupRecord.parse_toText g] at hread
  have hrange : g.range = g'.range := congrArg GroupRecord.range (Except.ok.inj hread)
  rw [isMatched_eq, isMatched_eq, hrange]

theorem showsValue (g : MatchGroup) : g.ShowsValue where
  display := rfl
  compares _ := beq_iff_eq
  readBack := GroupRecord.parse_toText g
  null := by
    rw [isMatched_eq, Option.isSome_eq_false_iff, Option.isNone_iff_eq_none]
  tells _ hne htext := hne (isMatched_eq_of_toText htext)

end MatchGroup

/-! ## Groups of a match -/

namespace Matcher

/-- A match that a question about a text is answered with. -/
inductive Answers (m : Matcher) (text : String) (x : Match) : Prop where
  | find (h : m.find text = some x)
  | next (n : Nat) (h : (m.walk text).item m n = some x)
  | all (h : x ∈ m.findAll text)

variable {r : Recipe} {m : Matcher} {text : String} {x : Match}

/-- Every match is found by a search from a place of the text. -/
theorem Answers.exists_spot (h : r.compile = .ok m.compiled) (hx : m.Answers text x) :
    ∃ s, (Spot.start text.toList).Reaches s ∧ m.findFrom text s = some x := by
  have hitem {n : Nat} (hn : (m.walk text).item m n = some x) :
      ∃ s, (Spot.start text.toList).Reaches s ∧ m.findFrom text s = some x := by
    obtain ⟨a, b, hstands, -, -⟩ := (Matches.next_after h text n).2 x hn
    exact ⟨a, hstands.start, hstands.found⟩
  cases hx with
  | find hfind => exact ⟨.start text.toList, .refl, hfind⟩
  | next n hn => exact hitem hn
  | all hmem =>
      obtain ⟨n, hn⟩ := Matches.exists_item_of_mem_drain hmem
      exact hitem hn

/-- The capture of a group is one of the ranges that the search found, or none. -/
theorem capture_of_mem_groups {found : (Nat × Nat) × Ranges} {g : MatchGroup}
    (hg : g ∈ (m.matchOf text found).groups) :
    g.capture = ((m.matchOf text found).captures[g.index]?).join ∧
      ∀ c, g.capture = some c → ∃ range, some range ∈ found.2 ∧ c = captureOf text range := by
  obtain ⟨accessor, -, rfl⟩ := List.mem_map.mp hg
  refine ⟨rfl, fun c hc => ?_⟩
  have hmem : some c ∈ (m.matchOf text found).captures :=
    List.mem_of_getElem? (Option.join_eq_some_iff.mp hc)
  obtain ⟨range, hrange, hcapture⟩ := List.mem_map.mp hmem
  obtain ⟨range, rfl, rfl⟩ := Option.map_eq_some_iff.mp hcapture
  exact ⟨range, hrange, rfl⟩

/-- **All views of a group are of one capture.**  For every pattern that compiles, every text and
every match: a group took no part, or it captured the part of the text in its range, which is
within that of the match; its views say so, and its value is what is displayed, compared and
written.  The value of the match is the part of the text in its own range. -/
theorem group_views (h : r.compile = .ok m.compiled) (hx : m.Answers text x) :
    Text.IsPart text x.range x.value ∧
      ∀ g ∈ x.groups, g.capture = (x.captures[g.index]?).join ∧ g.ShowsValue ∧
        (g.IsAbsent ∨ ∃ start stop, x.range.1 ≤ start ∧ stop ≤ x.range.2 ∧
          g.Captured text start stop) := by
  obtain ⟨s, hs, hfound⟩ := hx.exists_spot h
  obtain ⟨found, hsearch, rfl⟩ := Option.map_eq_some_iff.mp hfound
  obtain ⟨a, b, ha, hab, hwhole, -, hspans⟩ := Compiled.searchAt_some h hsearch
  have hrange : (m.matchOf text found).range = (a.bytes, b.bytes) := hwhole
  refine ⟨?_, fun g hg => ?_⟩
  -- the match is a range between places too: from its own start to its own end
  · have hwithin : a.Spans b found.1 := ⟨a, b, .refl, hab, .refl, hwhole⟩
    exact hwithin.isPart (hs.trans ha)
  · obtain ⟨hcapture, hsome⟩ := capture_of_mem_groups hg
    refine ⟨hcapture, g.showsValue, ?_⟩
    cases hc : g.capture with
    | none => exact .inl (MatchGroup.isAbsent_of_capture hc)
    | some c =>
        obtain ⟨range, hmem, rfl⟩ := hsome c hc
        have hspan := hspans range hmem
        have hpart := hspan.isPart (hs.trans ha)
        obtain ⟨p, q, hap, hpq, hqb, rfl⟩ := hspan
        refine .inr ⟨p.bytes, q.bytes, ?_, ?_, MatchGroup.captured_of_capture hc hpart⟩
        · rw [hrange]
          exact hap.bytes_le
        · rw [hrange]
          exact hqb.bytes_le

/-- The pattern `(a)?(é)(c*)b` with its three groups: the first takes no part, the second captures
a character of two bytes, the third the empty text. -/
theorem group_views_optional :
    ∃ (m : Matcher) (x : Match), (Recipe.of "(a)?(é)(c*)b").compile = .ok m.compiled ∧
      m.Answers "zéb" x ∧ x.range = (1, 4) ∧
      x.groups.map MatchGroup.range = [none, some (1, 3), some (3, 3)] ∧
      Text.IsPart "zéb" x.range x.value ∧
      ∀ g ∈ x.groups, g.capture = (x.captures[g.index]?).join ∧ g.ShowsValue ∧
        (g.IsAbsent ∨ ∃ start stop, x.range.1 ≤ start ∧ stop ≤ x.range.2 ∧
          g.Captured "zéb" start stop) := by
  obtain ⟨c, hc⟩ : ∃ c, (Recipe.of "(a)?(é)(c*)b").compile = .ok c :=
    exists_of_isOk (by decide +kernel)
  have hfind : ((Recipe.of "(a)?(é)(c*)b").compile.toOption.bind fun c =>
        ((⟨c, [.of 1 none, .of 2 none, .of 3 none]⟩ : Matcher).find "zéb").map fun x =>
          (x.range, x.groups.map MatchGroup.range)) =
      some ((1, 4), [none, some (1, 3), some (3, 3)]) := by
    decide +kernel
  rw [hc] at hfind
  obtain ⟨x, hx, hranges⟩ := Option.map_eq_some_iff.mp hfind
  obtain ⟨hrange, hgroups⟩ := Prod.ext_iff.mp hranges
  have hanswers : (⟨c, [.of 1 none, .of 2 none, .of 3 none]⟩ : Matcher).Answers "zéb" x := .find hx
  exact ⟨_, x, hc, hanswers, hrange, hgroups, group_views hc hanswers⟩

end Matcher

end CaptureTypes
