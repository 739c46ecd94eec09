/-
# The leftmost match

`race` lets the threads at one place run to the end of the text and starts
no other thread.  A search tries a new start at each place as long as there
is no match, so threads of many starts run side by side, and a step that an
older thread visits is closed to the younger ones.  Still a start is no
worse off for the threads before it: `search_eq` says that a search finds
what the race of the first start finds that has a match.

The reason is `race_append`: threads in front either have a match, which is
preferred, or none of them can reach one.  In the second case the steps that
they visit are not `Live`, and `race_congr` says that only live threads
matter; with `Visits.filter` the others are left out.
-/
import Mathlib.Logic.Basic
import CaptureTypes.Proofs.Follow

namespace CaptureTypes.Pattern

/-! ## Accepting and taking a character -/

/-- The thread that goes on for a thread after a character, if it takes it. -/
def Thread.take? (p : Program) (c : Char) (t : Thread) : Option Thread :=
  ((p.step t.step).after? c).map (⟨·, t.history⟩)

/-- The threads that go on after a character. -/
def takes (p : Program) (c : Char) (threads : List Thread) : List Thread :=
  threads.filterMap (Thread.take? p c)

variable {p : Program}

theorem Thread.take?_eq_some_iff {c : Char} {t u : Thread} :
    t.take? p c = some u ↔ (p.step t.step).after? c = some u.step ∧ t.history = u.history := by
  rw [Thread.take?, Option.map_eq_some_iff]
  constructor
  · rintro ⟨i, hi, rfl⟩
    exact ⟨hi, rfl⟩
  · rintro ⟨hi, hhistory⟩
    exact ⟨u.step, hi, by rw [hhistory]⟩

theorem Program.accepts_iff {t : Thread} : p.accepts t = true ↔ p.step t.step = .accept := by
  rw [Program.accepts]
  cases p.step t.step <;> simp

theorem advance_eq (p : Program) (c : Char) (s : Spot) (threads : List Thread) :
    advance p c s threads = Front.of p s (takes p c threads) := by
  rw [advance, Front.of, takes, List.foldl_filterMap]
  congr
  funext f t
  rw [Thread.take?]
  cases (p.step t.step).after? c <;> rfl

/-! ## The first thread that accepts -/

theorem accepted_cons (t : Thread) (ts : List Thread) :
    accepted p (t :: ts) =
      if p.accepts t then ([], some t.history)
      else (t :: (accepted p ts).1, (accepted p ts).2) := by
  rw [accepted]
  split
  · rename_i h
    rw [if_pos (Program.accepts_iff.mpr h)]
  · rename_i h
    rw [if_neg fun haccepts => h (Program.accepts_iff.mp haccepts)]

theorem isSome_accepted (ts : List Thread) : (accepted p ts).2.isSome = ts.any p.accepts := by
  induction ts with
  | nil => rfl
  | cons t ts ih =>
      rw [accepted_cons, List.any_cons]
      split
      · rename_i h
        rw [h, Bool.true_or]
        rfl
      · rename_i h
        rw [Bool.eq_false_of_not_eq_true h, Bool.false_or]
        exact ih

theorem accepted_snd_eq_none_iff {ts : List Thread} :
    (accepted p ts).2 = none ↔ ∀ t ∈ ts, ¬ p.accepts t := by
  rw [← Option.not_isSome_iff_eq_none, isSome_accepted, List.any_eq_true]
  push Not
  rfl

theorem exists_of_accepted {ts : List Thread} {found : History}
    (h : (accepted p ts).2 = some found) : ∃ t ∈ ts, p.accepts t ∧ t.history = found := by
  induction ts with
  | nil => cases h
  | cons t ts ih =>
      rw [accepted_cons] at h
      split at h
      · rename_i haccepts
        cases h
        exact ⟨t, List.mem_cons_self, haccepts, rfl⟩
      · obtain ⟨u, hu, hfound⟩ := ih h
        exact ⟨u, List.mem_cons_of_mem _ hu, hfound⟩

theorem accepted_subset (ts : List Thread) : (accepted p ts).1 ⊆ ts := by
  induction ts with
  | nil => exact List.Subset.refl _
  | cons t ts ih =>
      rw [accepted_cons]
      split
      · exact List.nil_subset _
      · exact List.cons_subset_cons _ ih

theorem accepted_of_none {ts : List Thread} (h : (accepted p ts).2 = none) :
    (accepted p ts).1 = ts := by
  induction ts with
  | nil => rfl
  | cons t ts ih =>
      rw [accepted_cons] at h ⊢
      split at h
      · cases h
      · rename_i hnot
        rw [if_neg hnot, ih h]

theorem accepted_append_of_some {ts : List Thread} {found : History}
    (h : (accepted p ts).2 = some found) (us : List Thread) :
    accepted p (ts ++ us) = accepted p ts := by
  induction ts with
  | nil => cases h
  | cons t ts ih =>
      rw [List.cons_append, accepted_cons, accepted_cons]
      rw [accepted_cons] at h
      split
      · rfl
      · rename_i hnot
        rw [if_neg hnot] at h
        rw [ih h]

theorem accepted_append_of_none {ts : List Thread} (h : (accepted p ts).2 = none)
    (us : List Thread) :
    accepted p (ts ++ us) = (ts ++ (accepted p us).1, (accepted p us).2) := by
  induction ts with
  | nil => rfl
  | cons t ts ih =>
      rw [accepted_cons] at h
      rw [List.cons_append, accepted_cons]
      split at h
      · cases h
      · rename_i hnot
        rw [if_neg hnot, ih h]
        rfl

theorem accepted_filter {keep : Thread → Bool} (hkeep : ∀ t, p.accepts t → keep t)
    (ts : List Thread) :
    accepted p (ts.filter keep) = ((accepted p ts).1.filter keep, (accepted p ts).2) := by
  induction ts with
  | nil => rfl
  | cons t ts ih =>
      by_cases haccepts : p.accepts t
      · rw [List.filter_cons_of_pos (hkeep t haccepts), accepted_cons, accepted_cons,
          if_pos haccepts, if_pos haccepts]
        rfl
      · rw [accepted_cons, if_neg haccepts]
        by_cases hk : keep t
        · rw [List.filter_cons_of_pos hk, List.filter_cons_of_pos hk, accepted_cons,
            if_neg haccepts, ih]
        · rw [List.filter_cons_of_neg hk, List.filter_cons_of_neg hk, ih]

/-! ## A match with no other start -/

/-- The history of the preferred match of the threads that come to a place. -/
def race (p : Program) : Spot → List Thread → Option History
  | ⟨bytes, before, []⟩, todo => (accepted p (waiting p ⟨bytes, before, []⟩ todo)).2
  | ⟨bytes, before, c :: rest⟩, todo =>
    let (threads, found) := accepted p (waiting p ⟨bytes, before, c :: rest⟩ todo)
    (race p ⟨bytes + c.utf8Size, some c, rest⟩ (takes p c threads)).or found
termination_by s => s.rest.length

/-- Induction over a text from its end. -/
theorem Spot.induct {motive : Spot → Prop} (stop : ∀ bytes before, motive ⟨bytes, before, []⟩)
    (pass : ∀ bytes before c rest, motive ⟨bytes + c.utf8Size, some c, rest⟩ →
      motive ⟨bytes, before, c :: rest⟩) (s : Spot) : motive s := by
  obtain ⟨bytes, before, rest⟩ := s
  induction rest generalizing bytes before with
  | nil => exact stop bytes before
  | cons c rest ih => exact pass bytes before c rest (ih _ _)

theorem race_stop (bytes : Nat) (before : Option Char) (todo : List Thread) :
    race p ⟨bytes, before, []⟩ todo = (accepted p (waiting p ⟨bytes, before, []⟩ todo)).2 := by
  rw [race]

theorem race_pass (bytes : Nat) (before : Option Char) (c : Char) (rest : List Char)
    (todo : List Thread) :
    race p ⟨bytes, before, c :: rest⟩ todo =
      (race p ⟨bytes + c.utf8Size, some c, rest⟩
        (takes p c (accepted p (waiting p ⟨bytes, before, c :: rest⟩ todo)).1)).or
      (accepted p (waiting p ⟨bytes, before, c :: rest⟩ todo)).2 := by
  rw [race]

theorem race_nil (s : Spot) : race p s [] = none := by
  induction s using Spot.induct with
  | stop bytes before => rw [race_stop]; rfl
  | pass bytes before c rest ih => rw [race_pass]; exact Option.or_eq_none_iff.mpr ⟨ih, rfl⟩

/-- What holds of the threads that come to a place and is kept on their way holds of a thread
that accepts, if there is a match. -/
theorem race_sound (holds : Spot → Thread → Prop) (hp : p.HasMoves)
    (honward : ∀ s t nexts, holds s t → t.onward? p s = some nexts → ∀ u ∈ nexts, holds s u)
    (htake : ∀ bytes before c rest t u, holds ⟨bytes, before, c :: rest⟩ t → t.take? p c = some u →
      holds ⟨bytes + c.utf8Size, some c, rest⟩ u)
    {s : Spot} {todo : List Thread} {found : History} (h : race p s todo = some found)
    (htodo : ∀ t ∈ todo, holds s t) :
    ∃ s' t, holds s' t ∧ p.accepts t ∧ t.history = found := by
  have hwaiting (s : Spot) (todo : List Thread) (htodo : ∀ t ∈ todo, holds s t) :
      ∀ t ∈ waiting p s todo, holds s t := (waiting_visits hp s todo).forall_wait (honward s) htodo
  induction s using Spot.induct generalizing todo with
  | stop bytes before =>
      rw [race_stop] at h
      obtain ⟨t, ht, hfound⟩ := exists_of_accepted h
      exact ⟨_, t, hwaiting _ todo htodo t ht, hfound⟩
  | pass bytes before c rest ih =>
      rw [race_pass] at h
      rcases Option.or_eq_some_iff.mp h with h | ⟨-, h⟩
      · refine ih h fun u hu => ?_
        obtain ⟨t, ht, htu⟩ := List.mem_filterMap.mp hu
        exact htake _ _ _ _ t u (hwaiting _ todo htodo t (accepted_subset _ ht)) htu
      · obtain ⟨t, ht, hfound⟩ := exists_of_accepted h
        exact ⟨_, t, hwaiting _ todo htodo t ht, hfound⟩

/-! ## Steps from which a match can be reached -/

/-- A match can be reached from a step at a place. -/
inductive Live (p : Program) : Spot → Nat → Prop where
  | accept {s : Spot} {i : Nat} (hi : p.step i = .accept) : Live p s i
  | onward {s : Spot} {i j : Nat} {nexts : List Nat} (hi : (p.step i).onward? s = some nexts)
      (hj : j ∈ nexts) (hlive : Live p s j) : Live p s i
  | take {bytes : Nat} {before : Option Char} {c : Char} {rest : List Char} {i j : Nat}
      (hi : (p.step i).after? c = some j)
      (hlive : Live p ⟨bytes + c.utf8Size, some c, rest⟩ j) : Live p ⟨bytes, before, c :: rest⟩ i

theorem Step.onward?_of_after? {step : Step} {c : Char} {next : Nat}
    (h : step.after? c = some next) (s : Spot) : step.onward? s = none := by
  cases step with
  | char d next => rfl
  | oneOf set next => rfl
  | look l next => cases h
  | openGroup g next => cases h
  | closeGroup g next => cases h
  | branch nexts => cases h
  | accept => cases h

/-- A step that is visited at a place is a thread's that waits, or its ways on are visited too. -/
theorem seen_cases (hp : p.HasMoves) {s : Spot} {todo : List Thread} {i : Nat}
    (h : i ∈ (Front.of p s todo).seen) :
    (p.step i).onward? s = none ∧ (∃ t ∈ waiting p s todo, t.step = i) ∨
      ∃ nexts, (p.step i).onward? s = some nexts ∧ ∀ j ∈ nexts, j ∈ (Front.of p s todo).seen := by
  rcases (waiting_visits hp s todo).exists_thread i h with h | ⟨t, rfl, hwait, honward⟩
  · -- beyond the program
    have hsize : p.steps.size ≤ i := by
      rw [Front.mem_seen, Front.empty, Array.getD_eq_getD_getElem?] at h
      by_contra hlt
      rw [Array.getElem?_replicate, if_pos (by omega)] at h
      cases h
    have hstep : p.step i = .branch [] := by
      rw [Program.step, Array.getD_eq_getD_getElem?, Array.getElem?_eq_none hsize]
      rfl
    exact .inr ⟨[], by rw [hstep]; rfl, fun _ hj => absurd hj List.not_mem_nil⟩
  · cases hnexts : (p.step t.step).onward? s with
    | none => exact .inl ⟨rfl, t, hwait (by rw [Thread.onward?, hnexts]; rfl), rfl⟩
    | some nexts =>
        refine .inr ⟨nexts, rfl, fun j hj => ?_⟩
        exact honward _ (Thread.onward?_eq_some_iff.mpr ⟨nexts, hnexts, rfl⟩) _
          (List.mem_map_of_mem hj)

/-- If a live step is visited there is a match. -/
theorem race_ne_none_of_live (hp : p.HasMoves) {s : Spot} {i : Nat} (hlive : Live p s i)
    {todo : List Thread} (h : i ∈ (Front.of p s todo).seen) : race p s todo ≠ none := by
  induction hlive generalizing todo with
  | @accept s i hi =>
      intro hrace
      obtain ⟨-, t, ht, rfl⟩ | ⟨nexts, hnexts, -⟩ := seen_cases hp h
      · have hnone : (accepted p (waiting p s todo)).2 = none := by
          obtain ⟨bytes, before, rest⟩ := s
          cases rest with
          | nil => rwa [race_stop] at hrace
          | cons c rest => rw [race_pass] at hrace; exact (Option.or_eq_none_iff.mp hrace).2
        exact accepted_snd_eq_none_iff.mp hnone t ht (Program.accepts_iff.mpr hi)
      · rw [hi] at hnexts
        cases hnexts
  | onward hi hj _ ih =>
      obtain ⟨hwait, -⟩ | ⟨nexts, hnexts, hseen⟩ := seen_cases hp h
      · rw [hwait] at hi
        cases hi
      · cases hnexts.symm.trans hi
        exact ih (hseen _ hj)
  | @take bytes before c rest i j hi _ ih =>
      intro hrace
      obtain ⟨-, t, ht, rfl⟩ | ⟨nexts, hnexts, -⟩ := seen_cases hp h
      · rw [race_pass] at hrace
        obtain ⟨hrace, hnone⟩ := Option.or_eq_none_iff.mp hrace
        rw [accepted_of_none hnone] at hrace
        -- no thread accepts here, so the one at this step goes on
        have hu : (⟨j, t.history⟩ : Thread) ∈ takes p c (waiting p ⟨bytes, before, c :: rest⟩ todo) :=
          List.mem_filterMap.mpr ⟨t, ht, Thread.take?_eq_some_iff.mpr ⟨hi, rfl⟩⟩
        exact ih ((waiting_visits hp _ _).step_mem _ hu) hrace
      · rw [Step.onward?_of_after? hi] at hnexts
        cases hnexts

/-! ## Only live threads matter -/

open Classical in
/-- The threads from which a match can be reached. -/
noncomputable def living (p : Program) (s : Spot) (ts : List Thread) : List Thread :=
  ts.filter fun t => Live p s t.step

theorem living_append (s : Spot) (ts us : List Thread) :
    living p s (ts ++ us) = living p s ts ++ living p s us :=
  List.filter_append ts us

theorem living_of_race_none (hp : p.HasMoves) {s : Spot} {todo : List Thread}
    (h : race p s todo = none) : living p s todo = [] := by
  classical
  rw [living, List.filter_eq_nil_iff]
  intro t ht hlive
  exact race_ne_none_of_live hp (of_decide_eq_true hlive)
    ((waiting_visits hp s todo).step_mem t ht) h

theorem living_waiting (hp : p.HasMoves) {s : Spot} {todo todo' : List Thread}
    (h : living p s todo = living p s todo') :
    living p s (waiting p s todo) = living p s (waiting p s todo') := by
  classical
  have hdead : ∀ (t : Thread) (nexts : List Thread), ¬ Live p s t.step → t.onward? p s = some nexts →
      ∀ u ∈ nexts, ¬ Live p s u.step := by
    intro t nexts ht hnexts u hu hlive
    obtain ⟨js, hjs, rfl⟩ := Thread.onward?_eq_some_iff.mp hnexts
    obtain ⟨j, hj, rfl⟩ := List.mem_map.mp hu
    exact ht (.onward hjs hj hlive)
  have hvisits := (waiting_visits hp s todo).filter (Live p s) hdead
  have hvisits' := (waiting_visits hp s todo').filter (Live p s) hdead
  rw [living, living] at h
  rw [← h] at hvisits'
  exact (hvisits.unique hvisits').1

theorem accepted_living (s : Spot) (ts : List Thread) :
    accepted p (living p s ts) = (living p s (accepted p ts).1, (accepted p ts).2) := by
  classical
  exact accepted_filter (fun t ht => decide_eq_true (.accept (Program.accepts_iff.mp ht))) ts

theorem living_takes (bytes : Nat) (before : Option Char) (c : Char) (rest : List Char)
    (ts : List Thread) :
    living p ⟨bytes + c.utf8Size, some c, rest⟩
        (takes p c (living p ⟨bytes, before, c :: rest⟩ ts)) =
      living p ⟨bytes + c.utf8Size, some c, rest⟩ (takes p c ts) := by
  classical
  rw [living, living, living, takes, takes, List.filterMap_filter, List.filter_filterMap,
    List.filter_filterMap]
  congr
  funext t
  by_cases ht : Live p ⟨bytes, before, c :: rest⟩ t.step
  · rw [if_pos (decide_eq_true ht)]
  · rw [if_neg (by simpa using ht)]
    cases htake : t.take? p c with
    | none => rfl
    | some u =>
        have hu : ¬ Live p ⟨bytes + c.utf8Size, some c, rest⟩ u.step := fun hlive =>
          ht (.take (Thread.take?_eq_some_iff.mp htake).1 hlive)
        rw [Option.filter_none, Option.filter_some, if_neg (by simpa using hu)]

theorem race_congr (hp : p.HasMoves) {s : Spot} {todo todo' : List Thread}
    (h : living p s todo = living p s todo') : race p s todo = race p s todo' := by
  induction s using Spot.induct generalizing todo todo' with
  | stop bytes before =>
      have haccepted := congrArg (accepted p) (living_waiting hp h)
      rw [accepted_living, accepted_living] at haccepted
      rw [race_stop, race_stop]
      exact (Prod.mk.injEq .. ▸ haccepted).2
  | pass bytes before c rest ih =>
      have haccepted := congrArg (accepted p) (living_waiting hp h)
      rw [accepted_living, accepted_living] at haccepted
      obtain ⟨hliving, hfound⟩ := Prod.mk.injEq .. ▸ haccepted
      rw [race_pass, race_pass, hfound]
      congr 1
      apply ih
      rw [← living_takes _ before, hliving, living_takes]

/-! ## Threads one after the other -/

theorem race_append_of_some (hp : p.HasMoves) {s : Spot} {todo : List Thread} {found : History}
    (h : race p s todo = some found) (more : List Thread) :
    race p s (todo ++ more) = some found := by
  induction s using Spot.induct generalizing todo more with
  | stop bytes before =>
      obtain ⟨w, hw⟩ := waiting_append hp ⟨bytes, before, []⟩ todo more
      rw [race_stop] at h
      rw [race_stop, hw, accepted_append_of_some h]
      exact h
  | pass bytes before c rest ih =>
      obtain ⟨w, hw⟩ := waiting_append hp ⟨bytes, before, c :: rest⟩ todo more
      rw [race_pass] at h
      rw [race_pass, hw]
      cases haccepted : (accepted p (waiting p ⟨bytes, before, c :: rest⟩ todo)).2 with
      | some first =>
          rw [accepted_append_of_some haccepted]
          exact h
      | none =>
          rw [haccepted, Option.or_none, accepted_of_none haccepted] at h
          rw [accepted_append_of_none haccepted, takes, List.filterMap_append]
          exact Option.or_eq_some_iff.mpr (.inl (ih h _))

/-- The threads in front are preferred, and if they have no match they do not matter. -/
theorem race_append (hp : p.HasMoves) (s : Spot) (todo more : List Thread) :
    race p s (todo ++ more) = (race p s todo).or (race p s more) := by
  cases h : race p s todo with
  | some found => exact race_append_of_some hp h more
  | none =>
      rw [Option.none_or]
      apply race_congr hp
      rw [living_append, living_of_race_none hp h, List.nil_append]

/-! ## Searches -/

/-- What a search does at a character. -/
theorem searchFrom_cons (bytes : Nat) (before : Option Char) (c : Char) (rest : List Char)
    (f : Front) (best : Option History) :
    searchFrom p bytes before (c :: rest) f best =
      let f := if best.isNone then f.add p ⟨bytes, before, c :: rest⟩ p.first else f
      let turn := accepted p f.threads.toList
      if turn.1.isEmpty && (turn.2.or best).isSome then turn.2.or best
      else
        searchFrom p (bytes + c.utf8Size) (some c) rest
          (advance p c ⟨bytes + c.utf8Size, some c, rest⟩ turn.1) (turn.2.or best) :=
  rfl

theorem Front.of_add (s : Spot) (todo : List Thread) (t : Thread) :
    (Front.of p s todo).add p s t = Front.of p s (todo ++ [t]) := by
  rw [Front.of, Front.of, List.foldl_append]
  rfl

/-- A search that has a match and no threads ends early; it would find nothing more. -/
theorem ite_isEmpty_race (s : Spot) (c : Char) (threads : List Thread) (best : History) :
    (if threads.isEmpty && (some best).isSome then some best
      else (race p s (takes p c threads)).or (some best)) =
      (race p s (takes p c threads)).or (some best) := by
  split
  · rename_i hempty
    rw [Bool.and_eq_true, List.isEmpty_iff] at hempty
    rw [hempty.1, takes, List.filterMap_nil, race_nil, Option.none_or]
  · rfl

/-- A search that has a match lets its threads race on for a preferred one. -/
theorem searchFrom_some (bytes : Nat) (before : Option Char) (rest : List Char)
    (todo : List Thread) (best : History) :
    searchFrom p bytes before rest (Front.of p ⟨bytes, before, rest⟩ todo) (some best) =
      (race p ⟨bytes, before, rest⟩ todo).or (some best) := by
  induction rest generalizing bytes before todo best with
  | nil => rw [race_stop]; rfl
  | cons c rest ih =>
      rw [searchFrom_cons, race_pass, Option.or_assoc]
      simp only [Option.isNone_some, Bool.false_eq_true, if_false]
      rw [advance_eq, ← waiting, Option.or_some, ih, ite_isEmpty_race]

/-- A search that has no match yet: its threads race with a new start, and if none of them has
a match the search goes on. -/
theorem searchFrom_none (hp : p.HasMoves) (bytes : Nat) (before : Option Char) (rest : List Char)
    (todo : List Thread) :
    searchFrom p bytes before rest (Front.of p ⟨bytes, before, rest⟩ todo) none =
      (race p ⟨bytes, before, rest⟩ (todo ++ [p.first])).or
        ((Spot.next? ⟨bytes, before, rest⟩).bind (search p)) := by
  induction rest generalizing bytes before todo with
  | nil =>
      rw [race_stop, waiting, ← Front.of_add]
      rfl
  | cons c rest ih =>
      rw [searchFrom_cons, race_pass]
      simp only [Option.isNone_none, if_true, Front.of_add]
      rw [advance_eq, ← waiting, Option.or_none]
      cases hfound : (accepted p (waiting p ⟨bytes, before, c :: rest⟩ (todo ++ [p.first]))).2 with
      | some found =>
          rw [searchFrom_some, Option.or_assoc, Option.some_or, ite_isEmpty_race]
      | none =>
          -- the search at the next place is one without older threads
          have hnext := ih (bytes + c.utf8Size) (some c) []
          rw [if_neg (by simp), ih, race_append hp, Option.or_none, Option.or_assoc]
          exact congrArg _ hnext.symm

/-- **A search finds the match of the first start that has one.** -/
theorem search_eq (hp : p.HasMoves) (s : Spot) :
    search p s = (race p s [p.first]).or (s.next?.bind (search p)) :=
  searchFrom_none hp s.bytes s.before s.rest []

/-! ## The search for any match -/

/-- A match that a search has is only given up for another one. -/
theorem isSome_searchFrom_some (bytes : Nat) (before : Option Char) (rest : List Char) (f : Front)
    (best : History) : (searchFrom p bytes before rest f (some best)).isSome := by
  induction rest generalizing bytes before f best with
  | nil =>
      rw [searchFrom]
      dsimp only
      rw [Option.or_some]
      rfl
  | cons c rest ih =>
      rw [searchFrom_cons]
      simp only [Option.isNone_some, Bool.false_eq_true, if_false, Option.or_some]
      split
      · rfl
      · exact ih ..

theorem occursFrom_eq (bytes : Nat) (before : Option Char) (rest : List Char) (f : Front) :
    occursFrom p bytes before rest f = (searchFrom p bytes before rest f none).isSome := by
  induction rest generalizing bytes before f with
  | nil =>
      rw [searchFrom, occursFrom]
      simp only [Option.isNone_none, if_true, Option.or_none, isSome_accepted, Array.any_toList]
      split
      · rename_i h
        exact h.symm
      · rename_i h
        exact (Bool.eq_false_of_not_eq_true h).symm
  | cons c rest ih =>
      rw [searchFrom_cons, occursFrom]
      simp only [Option.isNone_none, if_true, Option.or_none]
      rw [← Array.any_toList, ← isSome_accepted]
      cases h : (accepted p (f.add p ⟨bytes, before, c :: rest⟩ p.first).threads.toList).2 with
      | some found =>
          rw [Option.isSome_some, if_pos rfl]
          split
          · rfl
          · exact (isSome_searchFrom_some ..).symm
      | none =>
          rw [if_neg (by simp), if_neg (by simp), accepted_of_none h]
          exact ih ..

/-- The two searches agree on whether there is a match. -/
theorem occurs_eq (s : Spot) : occurs p s = (search p s).isSome :=
  occursFrom_eq s.bytes s.before s.rest (Front.empty p)

end CaptureTypes.Pattern
