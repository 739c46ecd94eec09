/-
# Walks over all matches

A walk keeps the place where the last match ended.  The next match is the one
of a search from there; if this is the empty match at that very place, it is
passed over and the search begins one character later.  `searchPast` says this
in terms of searches, and `Matches.takes_past` that a walk does it.

What makes a walk come to an end is that matches start further and further
to the right (`Matcher.Stands.next`).  For an empty match this is not plain,
since the next search begins where it stands: but that search finds the same
match again, so it is passed over.

At its end a walk keeps a place too.  It is asked again like any other walk, and
that there is still no match is because the search fails again from there
(`Scan.next_of_none`).
-/
import Mathlib.Logic.Function.Iterate
import CaptureTypes.Match.Session
import CaptureTypes.Proofs.Accessor
import CaptureTypes.Proofs.Leftmost

namespace CaptureTypes

open Pattern (Recipe Compiled Scan Spot Ranges)

/-! ## Searches one after the other -/

namespace Pattern

/-- The place a number of bytes into a text. -/
def Spot.at (text : List Char) (bytes : Nat) : Spot := Spot.forward 0 none bytes text

theorem Spot.at_bytes {text : List Char} {b : Spot} (h : (Spot.start text).Reaches b) :
    Spot.at text b.bytes = b := h.forward_eq

/-- The match after one that ends at a place: the one of a search from there, or, when this is
the empty match there, the one of a search from the next character. -/
def Compiled.searchPast (c : Compiled) (s : Spot) : Option ((Nat × Nat) × Ranges) :=
  (c.searchAt s).bind fun first =>
    if first.1 = (s.bytes, s.bytes) then s.next?.bind c.searchAt else some first

/-- The match after one that ends at a place starts there or later, and if it starts there it
does not end there.  A search from its start finds it. -/
theorem Compiled.searchPast_some {r : Recipe} {c : Compiled} (h : r.compile = .ok c) {s : Spot}
    {found : (Nat × Nat) × Ranges} (hs : c.searchPast s = some found) :
    ∃ a b : Spot, s.Reaches a ∧ a.Reaches b ∧ found.1 = (a.bytes, b.bytes) ∧
      c.searchAt a = some found ∧ (a = s → b ≠ s) := by
  obtain ⟨first, hfirst, hs⟩ := Option.bind_eq_some_iff.mp hs
  split at hs
  · obtain ⟨n, hn, hs⟩ := Option.bind_eq_some_iff.mp hs
    obtain ⟨a, b, ha, hb, hrange, hbetween, -⟩ := searchAt_some h hs
    refine ⟨a, b, (Spot.Reaches.refl.next hn).trans ha, hb, hrange, hbetween a ha .refl, ?_⟩
    rintro rfl
    exact absurd ha.bytes_le (Nat.not_le.mpr (Spot.bytes_lt_of_next? hn))
  · rename_i hrepeat
    cases hs
    obtain ⟨a, b, ha, hb, hrange, hbetween, -⟩ := searchAt_some h hfirst
    refine ⟨a, b, ha, hb, hrange, hbetween a ha .refl, ?_⟩
    rintro rfl rfl
    exact hrepeat hrange

namespace Scan

/-- The walk after a match that ended a number of bytes into a text. -/
def past (text : List Char) (stop : Nat) : Scan := ⟨Spot.at text stop, some stop⟩

/-- A walk answers with what is found, and if something is, it goes on from its end. -/
structure Passes (text : List Char) (after : Option ((Nat × Nat) × Ranges) × Scan)
    (found : Option ((Nat × Nat) × Ranges)) : Prop where
  answer : after.1 = found
  goesOn : ∀ x ∈ found, after.2 = past text x.1.2

variable {r : Recipe} {c : Compiled} {scan : Scan} {text : List Char}

theorem passes_pass (h : r.compile = .ok c) {s : Spot} (hs : (Spot.start text).Reaches s)
    (scan : Scan) : Passes text (scan.pass s (c.searchAt s)) (c.searchAt s) := by
  cases hfound : c.searchAt s with
  | none => exact ⟨rfl, nofun⟩
  | some found =>
      obtain ⟨a, b, ha, hb, hrange, -⟩ := c.searchAt_some h hfound
      refine ⟨rfl, ?_⟩
      rintro x ⟨⟩
      rw [pass, past, hrange, (ha.trans hb).forward_eq, Spot.at_bytes (hs.trans (ha.trans hb))]

theorem passes_start (h : r.compile = .ok c) (text : List Char) :
    Passes text ((Scan.start text).next c) (c.searchAt (.start text)) := by
  have hhere : (Spot.start text).Reaches (.start text) := .refl
  have hpass := passes_pass h hhere (.start text)
  have hspot : (Scan.start text).spot = .start text := rfl
  rw [next, hspot]
  cases hfound : c.searchAt (.start text) with
  | none =>
      rw [hfound] at hpass
      exact hpass
  | some first =>
      rw [hfound] at hpass
      have hfresh : ¬ (first.1.1 = first.1.2 ∧ some first.1.2 = (Scan.start text).lastEnd) :=
        fun hrepeat => nomatch hrepeat.2
      dsimp only
      rw [if_neg hfresh]
      exact hpass

theorem passes_past (h : r.compile = .ok c) {b : Spot} (hb : (Spot.start text).Reaches b) :
    Passes text ((past text b.bytes).next c) (c.searchPast b) := by
  have hpass (s : Spot) (hs : (Spot.start text).Reaches s) := passes_pass h hs (past text b.bytes)
  have hspot : (past text b.bytes).spot = b := Spot.at_bytes hb
  rw [next, hspot, Compiled.searchPast]
  cases hfirst : c.searchAt b with
  | none => exact ⟨rfl, nofun⟩
  | some first =>
      have hrepeat : (first.1.1 = first.1.2 ∧ some first.1.2 = (past text b.bytes).lastEnd) ↔
          first.1 = (b.bytes, b.bytes) := by
        rw [Prod.ext_iff, past, Option.some.injEq]
        dsimp only
        omega
      simp only [Option.bind_some, hrepeat]
      split
      · cases hn : b.next? with
        | none => exact ⟨rfl, nofun⟩
        | some n => exact hpass n (hb.next hn)
      · rw [← hfirst]
        exact hpass b hb

theorem next_of_searchAt (h : c.searchAt scan.spot = none) : scan.next c = (none, scan) := by
  rw [next, h]
  rfl

/-- A walk without a next match stays where it is, or it goes past an empty match to a place from
which nothing is found. -/
theorem next_eq_of_none (h : (scan.next c).1 = none) :
    scan.next c = (none, scan) ∨
      ∃ s, scan.next c = (none, { scan with spot := s }) ∧ c.searchAt s = none := by
  unfold next at h ⊢
  cases hfirst : c.searchAt scan.spot with
  | none => exact .inl rfl
  | some first =>
      rw [hfirst] at h
      dsimp only at h ⊢
      split
      · rename_i hrepeat
        rw [if_pos hrepeat] at h
        cases hn : scan.spot.next? with
        | none => exact .inl rfl
        | some s =>
            rw [hn] at h
            dsimp only at h ⊢
            cases hfound : c.searchAt s with
            | none => exact .inr ⟨s, rfl, hfound⟩
            | some found =>
                rw [hfound] at h
                cases h
      · rename_i hrepeat
        rw [if_neg hrepeat] at h
        cases h

/-- A walk without a next match has none when it is asked again: it searches again, and the search
fails again. -/
theorem next_of_none (h : (scan.next c).1 = none) :
    (scan.next c).2.next c = (none, (scan.next c).2) := by
  rcases next_eq_of_none h with hnext | ⟨s, hnext, hs⟩
  · rw [hnext]
    exact hnext
  · rw [hnext]
    exact next_of_searchAt hs

end Scan

end Pattern

/-! ## Where matches stand -/

namespace Matcher

/-- The match that a search from a place finds. -/
def findFrom (m : Matcher) (text : String) (s : Spot) : Option Match :=
  (m.compiled.searchAt s).map (m.matchOf text)

/-- The match after one that ends at a place. -/
def findPast (m : Matcher) (text : String) (s : Spot) : Option Match :=
  (m.compiled.searchPast s).map (m.matchOf text)

/-- A match of a text goes from one place to another, and a search from the first one finds it. -/
structure Stands (m : Matcher) (text : String) (x : Match) (a b : Spot) : Prop where
  start : (Spot.start text.toList).Reaches a
  stop : a.Reaches b
  range : x.range = (a.bytes, b.bytes)
  found : m.findFrom text a = some x

variable {r : Recipe} {m : Matcher} {text : String} {x y : Match}

/-- Where the match stands that a search finds; a search from any place between finds it too. -/
theorem stands_of_findFrom (h : r.compile = .ok m.compiled) {s : Spot}
    (hs : (Spot.start text.toList).Reaches s) (hx : m.findFrom text s = some x) :
    ∃ a b, m.Stands text x a b ∧ s.Reaches a ∧
      ∀ q : Spot, s.Reaches q → q.Reaches a → m.findFrom text q = some x := by
  obtain ⟨found, hfound, rfl⟩ := Option.map_eq_some_iff.mp hx
  obtain ⟨a, b, ha, hb, hrange, hbetween, -⟩ := Compiled.searchAt_some h hfound
  have hfind (q : Spot) (hq : s.Reaches q) (hqa : q.Reaches a) :
      m.findFrom text q = some (m.matchOf text found) := by
    rw [findFrom, hbetween q hq hqa]
    rfl
  exact ⟨a, b, ⟨hs.trans ha, hb, hrange, hfind a ha .refl⟩, ha, hfind⟩

/-- The next match starts where the last one ends or later, but further to the right than it;
if it starts where the last one ends it is not empty. -/
theorem Stands.next (h : r.compile = .ok m.compiled) {a b : Spot} (hx : m.Stands text x a b)
    (hy : m.findPast text b = some y) :
    ∃ a' b', m.Stands text y a' b' ∧ b.Reaches a' ∧ a' ≠ a ∧ (a' = b → b' ≠ b) := by
  obtain ⟨found, hfound, rfl⟩ := Option.map_eq_some_iff.mp hy
  obtain ⟨a', b', ha, hb, hrange, hagain, hlater⟩ := Compiled.searchPast_some h hfound
  have hfind : m.findFrom text a' = some (m.matchOf text found) := by
    rw [findFrom, hagain]
    rfl
  refine ⟨a', b', ⟨(hx.start.trans hx.stop).trans ha, hb, hrange, hfind⟩, ha, ?_, hlater⟩
  -- a match that starts where the last one does is the last one, and that is empty
  rintro rfl
  obtain rfl : b = a' := hx.stop.antisymm ha
  have hsame : x = m.matchOf text found := Option.some.inj (hx.found.symm.trans hfind)
  have hbytes : b'.bytes = b.bytes := by
    have hends := hx.range.symm.trans ((congrArg Match.range hsame).trans hrange)
    exact (congrArg Prod.snd hends).symm
  exact hlater rfl (hb.eq_of_bytes_eq hbytes)

end Matcher

/-! ## The matches of a walk -/

namespace Matches

variable {r : Recipe} {m : Matcher} {text : String}

/-- A walk answers with a match and goes on from its end, or it answers with none. -/
structure Takes (text : String) (after : Option Match × Matches) (found : Option Match) :
    Prop where
  answer : after.1 = found
  goesOn : ∀ x ∈ found, after.2 = ⟨text, .past text.toList x.range.2⟩

theorem takes_of_passes {scan : Scan} {found : Option ((Nat × Nat) × Ranges)}
    (h : Scan.Passes text.toList (scan.next m.compiled) found) :
    Takes text (next m ⟨text, scan⟩) (found.map (m.matchOf text)) where
  answer := congrArg (Option.map (m.matchOf text)) h.answer
  goesOn := by
    intro x hx
    obtain ⟨y, hy, rfl⟩ := Option.map_eq_some_iff.mp hx
    exact congrArg (Matches.mk text) (h.goesOn y hy)

theorem takes_walk (h : r.compile = .ok m.compiled) (text : String) :
    Takes text ((m.walk text).next m) (m.findFrom text (.start text.toList)) :=
  takes_of_passes (Scan.passes_start h text.toList)

theorem takes_past (h : r.compile = .ok m.compiled) {b : Spot}
    (hb : (Spot.start text.toList).Reaches b) :
    Takes text (next m ⟨text, .past text.toList b.bytes⟩) (m.findPast text b) :=
  takes_of_passes (Scan.passes_past h hb)

/-- A walk that came to its end stays there. -/
theorem next_of_none {walk : Matches} (h : (walk.next m).1 = none) :
    (walk.next m).2.next m = (none, (walk.next m).2) := by
  have hscan : (walk.scan.next m.compiled).1 = none := Option.map_eq_none_iff.mp h
  have hnext : walk.next m = (none, ⟨walk.text, (walk.scan.next m.compiled).2⟩) := Prod.ext h rfl
  rw [hnext, next, Scan.next_of_none hscan]
  rfl

/-- A walk after a number of matches were asked for. -/
def after (m : Matcher) (walk : Matches) (n : Nat) : Matches := (Prod.snd ∘ next m)^[n] walk

/-- The answer of a walk after a number of matches were asked for. -/
def item (m : Matcher) (walk : Matches) (n : Nat) : Option Match := ((walk.after m n).next m).1

theorem after_succ (m : Matcher) (walk : Matches) (n : Nat) :
    walk.after m (n + 1) = ((walk.after m n).next m).2 :=
  Function.iterate_succ_apply' ..

theorem after_add (m : Matcher) (walk : Matches) (i j : Nat) :
    walk.after m (i + j) = (walk.after m i).after m j := by
  rw [after, Nat.add_comm]
  exact Function.iterate_add_apply ..

theorem item_eq {walk : Matches} {n : Nat} {found : Option Match}
    (h : Takes text ((walk.after m n).next m) found) : walk.item m n = found := h.answer

/-- What a walk does at each match, and where the match stands.  Each match starts further to the
right than the one before, so fewer characters are left after its start. -/
theorem next_after (h : r.compile = .ok m.compiled) (text : String) (n : Nat) :
    Takes text (((m.walk text).after m n).next m) ((m.walk text).item m n) ∧
      ∀ x, (m.walk text).item m n = some x →
        ∃ a b, m.Stands text x a b ∧ a.rest.length + n ≤ text.length ∧
          (m.walk text).item m (n + 1) = m.findPast text b := by
  -- after a match that stands between two places the walk goes on from the second one
  have past {n : Nat} {x : Match} {a b : Spot}
      (hnext : Takes text (((m.walk text).after m n).next m) (some x))
      (hx : m.Stands text x a b) :
      Takes text (((m.walk text).after m (n + 1)).next m) (m.findPast text b) := by
    rw [after_succ, hnext.goesOn x rfl, hx.range]
    exact takes_past h (hx.start.trans hx.stop)
  induction n with
  | zero =>
      have hnext : Takes text (((m.walk text).after m 0).next m)
          (m.findFrom text (.start text.toList)) := takes_walk h text
      rw [item_eq hnext]
      refine ⟨hnext, fun x hx => ?_⟩
      obtain ⟨a, b, hstands, ha, -⟩ := Matcher.stands_of_findFrom h .refl hx
      exact ⟨a, b, hstands, ha.length_le, item_eq (past (hx ▸ hnext) hstands)⟩
  | succ n ih =>
      obtain ⟨hnext, hstands⟩ := ih
      cases hitem : (m.walk text).item m n with
      | none =>
          have hover : ((m.walk text).after m (n + 1)).next m
              = (none, (m.walk text).after m (n + 1)) := by
            rw [after_succ]
            exact next_of_none hitem
          have hnone : (m.walk text).item m (n + 1) = none := congrArg Prod.fst hover
          rw [hnone]
          exact ⟨⟨hnone, nofun⟩, fun _ hx => by cases hx⟩
      | some x =>
          rw [hitem] at hnext
          obtain ⟨a, b, hx, hroom, -⟩ := hstands x hitem
          have hpast := past hnext hx
          rw [item_eq hpast]
          refine ⟨hpast, fun y hy => ?_⟩
          obtain ⟨a', b', hy', ha, hne, -⟩ := hx.next h hy
          have hfewer := (hx.stop.trans ha).length_lt hne
          exact ⟨a', b', hy', by omega, item_eq (past (hy ▸ hpast) hy')⟩

/-! ## The end of a walk -/

/-- However often it is asked, a walk at its end stays there. -/
theorem after_of_none {walk : Matches} (h : (walk.next m).1 = none) (n : Nat) :
    (walk.next m).2.after m n = (walk.next m).2 :=
  Function.iterate_fixed (congrArg Prod.snd (next_of_none h)) n

theorem item_of_none {walk : Matches} {n : Nat} (h : walk.item m n = none) (k : Nat) :
    walk.item m (n + k) = none := by
  cases k with
  | zero => exact h
  | succ k =>
      rw [item, Nat.add_comm k 1, ← Nat.add_assoc, after_add, after_succ, after_of_none h]
      exact congrArg Prod.fst (next_of_none h)

/-- To ask for all matches that remain is to ask for one after the other. -/
theorem drain_snd (m : Matcher) (fuel : Nat) (walk : Matches) :
    (walk.drain m fuel).2 = walk.after m fuel := by
  induction fuel generalizing walk with
  | zero => rfl
  | succ fuel ih =>
      have hafter : walk.after m (fuel + 1) = (walk.next m).2.after m fuel :=
        Function.iterate_succ_apply ..
      rw [hafter, drain]
      split
      · rename_i walk' hnext
        rw [after_of_none (congrArg Prod.fst hnext), hnext]
      · rename_i found walk' hnext
        rw [ih, hnext]

/-- The matches that remain are answers of the walk. -/
theorem exists_item_of_mem_drain {fuel : Nat} {walk : Matches} {x : Match}
    (h : x ∈ (walk.drain m fuel).1) : ∃ n, walk.item m n = some x := by
  induction fuel generalizing walk with
  | zero => cases h
  | succ fuel ih =>
      rw [drain] at h
      split at h
      · cases h
      · rename_i found walk' hnext
        rcases List.mem_cons.mp h with rfl | h
        · exact ⟨0, congrArg Prod.fst hnext⟩
        · obtain ⟨n, hn⟩ := ih h
          have hafter : walk.after m (n + 1) = walk'.after m n := by
            rw [after, Function.iterate_succ_apply, Function.comp_apply, hnext]
            rfl
          exact ⟨n + 1, by rw [item, hafter]; exact hn⟩

theorem text_next (m : Matcher) (walk : Matches) : (walk.next m).2.text = walk.text := rfl

theorem text_after (m : Matcher) (walk : Matches) (n : Nat) :
    (walk.after m n).text = walk.text := by
  induction n with
  | zero => rfl
  | succ n ih => rw [after_succ, text_next, ih]

end Matches

/-! ## Whole walks -/

/-- What the answers of a walk over a text must be, one after the other, and the searches that
they come from. -/
structure Matcher.Iterates (m : Matcher) (text : String) (item : Nat → Option Match) : Prop where
  /-- The ranges are on boundaries of the text. -/
  bounded : ∀ n x, item n = some x →
    String.Pos.Raw.IsValid text ⟨x.range.1⟩ ∧ String.Pos.Raw.IsValid text ⟨x.range.2⟩ ∧
      x.range.1 ≤ x.range.2 ∧ x.range.2 ≤ text.utf8ByteSize
  /-- The ranges are in order and do not overlap, and none is empty where another one ends. -/
  ordered : ∀ n x y, item n = some x → item (n + 1) = some y →
    x.range.2 ≤ y.range.1 ∧ x.range.1 < y.range.1 ∧
      (y.range.1 = y.range.2 → x.range.2 < y.range.1)
  /-- The first match is the one of a search from the start. -/
  first : item 0 = m.findFrom text (.start text.toList)
  /-- The next match is the one of a search from the end of the last one, or from one character
  later if the search from the end finds the empty match there. -/
  next : ∀ n x, item n = some x → item (n + 1) =
    match m.findFrom text (.at text.toList x.range.2) with
    | none => none
    | some y =>
      if y.range = (x.range.2, x.range.2) then
        (Spot.at text.toList x.range.2).next?.bind (m.findFrom text)
      else some y
  /-- A search finds the match that starts first at its place or after it: a search from any place
  between finds the same match. -/
  leftmost : ∀ s x, (Spot.start text.toList).Reaches s → m.findFrom text s = some x →
    ∃ a b, m.Stands text x a b ∧ s.Reaches a ∧
      ∀ q : Spot, s.Reaches q → q.Reaches a → m.findFrom text q = some x
  /-- There is at most one match for each place between the characters. -/
  finite : ∀ n, text.length < n → item n = none
  /-- There is no match after the end. -/
  fused : ∀ n, item n = none → ∀ k, item (n + k) = none

theorem Matcher.findPast_eq (m : Matcher) (text : String) (s : Spot) :
    m.findPast text s =
      match m.findFrom text s with
      | none => none
      | some y =>
        if y.range = (s.bytes, s.bytes) then s.next?.bind (m.findFrom text) else some y := by
  rw [findPast, findFrom, Compiled.searchPast]
  cases m.compiled.searchAt s with
  | none => rfl
  | some first =>
      change Option.map _ (if first.1 = _ then _ else _) = if first.1 = _ then _ else _
      split
      · exact Option.map_bind
      · rfl

/-- A walk over a text answers with its matches, one after the other. -/
theorem Matcher.iterates_walk {r : Recipe} {m : Matcher} (h : r.compile = .ok m.compiled)
    (text : String) : m.Iterates text ((m.walk text).item m) := by
  have hstands (n : Nat) (x : Match) := (Matches.next_after h text n).2 x
  constructor
  case bounded =>
    intro n x hx
    obtain ⟨a, b, hx, -, -⟩ := hstands n x hx
    have ha := hx.start.isValid
    have hb := (hx.start.trans hx.stop).isValid
    rw [hx.range]
    exact ⟨ha, hb, hx.stop.bytes_le, hb.le_rawEndPos⟩
  case ordered =>
    intro n x y hx hy
    obtain ⟨a, b, hx, -, hnext⟩ := hstands n x hx
    obtain ⟨a', b', hy, ha, hne, hlater⟩ := hx.next h (hnext.symm.trans hy)
    rw [hx.range, hy.range]
    refine ⟨ha.bytes_le, (hx.stop.trans ha).bytes_lt hne, fun hempty => ?_⟩
    refine ha.bytes_lt fun hab => hlater hab ?_
    exact (hy.stop.eq_of_bytes_eq hempty.symm).trans hab
  case first =>
    exact (Matches.takes_walk h text).answer
  case next =>
    intro n x hx
    obtain ⟨a, b, hx, -, hnext⟩ := hstands n x hx
    rw [hnext, Matcher.findPast_eq, hx.range, Spot.at_bytes (hx.start.trans hx.stop)]
  case leftmost => exact fun s x hs hx => stands_of_findFrom h hs hx
  case finite =>
    intro n hn
    cases hitem : (m.walk text).item m n with
    | none => rfl
    | some x =>
        obtain ⟨a, b, -, hroom, -⟩ := hstands n x hitem
        omega
  case fused => exact fun n hn k => Matches.item_of_none hn k

/-! ## Walks side by side -/

/-- How often a question asks a walk, over a text of a length, for the next match. -/
def Question.pulls (walk length : Nat) : Question → Nat
  | .next i => if i = walk then 1 else 0
  | .rest i => if i = walk then length + 2 else 0
  | _ => 0

/-- How often questions ask a walk for the next match. -/
def pulls (walk length : Nat) (questions : List Question) : Nat :=
  questions.foldr (fun q n => q.pulls walk length + n) 0

namespace Session

/-- A session after questions. -/
def after (m : Matcher) (texts : List String) (s : Session) (questions : List Question) : Session :=
  questions.foldl (fun s q => (s.step m texts q).2) s

/-- A question only moves the walk that it asks. -/
theorem walks_step (m : Matcher) (texts : List String) {s : Session} {i : Nat} {walk : Matches}
    (h : s.walks[i]? = some walk) (q : Question) :
    (s.step m texts q).2.walks[i]? = some (walk.after m (q.pulls i walk.text.length)) := by
  cases q with
  | next j =>
      rw [step, Question.pulls]
      by_cases hji : j = i
      · subst hji
        obtain ⟨hlt, -⟩ := List.getElem?_eq_some_iff.mp h
        rw [h, if_pos rfl]
        exact List.getElem?_set_self hlt
      · rw [if_neg hji]
        split
        · exact h
        · exact (List.getElem?_set_ne hji).trans h
  | rest j =>
      rw [step, Question.pulls]
      by_cases hji : j = i
      · subst hji
        obtain ⟨hlt, -⟩ := List.getElem?_eq_some_iff.mp h
        rw [h, if_pos rfl, ← Matches.drain_snd]
        exact List.getElem?_set_self hlt
      · rw [if_neg hji]
        split
        · exact h
        · exact (List.getElem?_set_ne hji).trans h
  | walk t =>
      obtain ⟨hlt, -⟩ := List.getElem?_eq_some_iff.mp h
      exact (List.getElem?_append_left hlt).trans h
  | _ => exact h

theorem walks_after (m : Matcher) (texts : List String) {s : Session} {i : Nat} {walk : Matches}
    (h : s.walks[i]? = some walk) (questions : List Question) :
    (s.after m texts questions).walks[i]? =
      some (walk.after m (pulls i walk.text.length questions)) := by
  induction questions generalizing s walk with
  | nil => exact h
  | cons q questions ih =>
      have hstep := ih (walks_step m texts h q)
      rw [Matches.text_after, ← Matches.after_add] at hstep
      exact hstep

/-- The next match of a walk, whatever was asked since the walk was begun. -/
theorem step_next_after (m : Matcher) (texts : List String) (s : Session) (i : Nat)
    (questions : List Question) :
    (((s.step m texts (.walk i)).2.after m texts questions).step m texts
        (.next s.walks.length)).1 =
      .ofOption .matched ((m.walk (texts.getD i "")).item m
        (pulls s.walks.length (texts.getD i "").length questions)) := by
  have hbegun : (s.step m texts (.walk i)).2.walks[s.walks.length]? =
      some (m.walk (texts.getD i "")) := List.getElem?_concat_length
  have hwalk := walks_after m texts hbegun questions
  generalize (s.step m texts (.walk i)).2.after m texts questions = s' at hwalk
  rw [step, hwalk]
  rfl

end Session

/-- **Walks over all matches.**  For every pattern that compiles and every text, the matches of
a walk are on boundaries of the text, in order and apart; none is left out; there is at most one
for each place between the characters, and none after the end.  A walk that is begun in a session
answers with these matches, whatever was and is asked of other walks. -/
theorem Matcher.walk_iterates {r : Recipe} {m : Matcher} (h : r.compile = .ok m.compiled)
    (text : String) :
    m.Iterates text ((m.walk text).item m) ∧
      ∀ (texts : List String) (s : Session) (i : Nat) (questions : List Question),
        texts.getD i "" = text →
        (((s.step m texts (.walk i)).2.after m texts questions).step m texts
            (.next s.walks.length)).1 =
          .ofOption .matched ((m.walk text).item m
            (pulls s.walks.length text.length questions)) := by
  refine ⟨m.iterates_walk h text, fun texts s i questions htext => ?_⟩
  subst htext
  exact s.step_next_after m texts i questions

/-- The pattern `a*` in a text that begins with a character of two bytes: the empty match at the
end of the letters is passed over. -/
theorem Matcher.walk_iterates_star :
    ∃ m : Matcher, (Recipe.of "a*").compile = .ok m.compiled ∧
      m.Iterates "éaac" ((m.walk "éaac").item m) ∧
      ((List.range 5).map fun n => ((m.walk "éaac").item m n).map Match.range) =
        [some (0, 0), some (2, 4), some (5, 5), none, none] ∧
      (((Session.start.step m ["éaac"] (.walk 0)).2.after m ["éaac"]
          [.next 0, .walk 0, .rest 1]).step m ["éaac"] (.next 0)).1 =
        .ofOption .matched ((m.walk "éaac").item m 1) := by
  obtain ⟨c, hc⟩ : ∃ c, (Recipe.of "a*").compile = .ok c := exists_of_isOk (by decide +kernel)
  have hranges : ((Recipe.of "a*").compile.toOption.map fun c => (List.range 5).map fun n =>
        (((⟨c, []⟩ : Matcher).walk "éaac").item ⟨c, []⟩ n).map Match.range) =
      some [some (0, 0), some (2, 4), some (5, 5), none, none] := by
    decide +kernel
  rw [hc] at hranges
  obtain ⟨hiterates, hsession⟩ := Matcher.walk_iterates (m := ⟨c, []⟩) hc "éaac"
  exact ⟨⟨c, []⟩, hc, hiterates, Option.some.inj hranges,
    hsession ["éaac"] .start 0 [.next 0, .walk 0, .rest 1] rfl⟩

end CaptureTypes
