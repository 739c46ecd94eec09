/-
# Threads between two characters

`Front.follow` moves threads through the steps that need no character; it
counts its moves and keeps the steps visited in an array.  `Visits` says the
same without fuel and array: which threads come to wait, in their order, and
which steps are visited on the way.  It speaks of any way to go `onward`, so
that a machine with fewer ways can be compared with the full one.

The fuel is counted once, in `Front.follow_visits`.  Each move takes a thread
from those to be followed, and only a step that is visited for the first time
adds some, as many as its degree: the degrees of the steps not yet visited
bound the moves to come.
-/
import Mathlib.Data.Set.Insert
import CaptureTypes.Pattern.Search

namespace CaptureTypes.Pattern

/-! ## One move -/

/-- The steps that a step leads to at a place without a character; `none` if it waits. -/
def Step.onward? (s : Spot) : Step → Option (List Nat)
  | .look l next => some (if s.holds l then [next] else [])
  | .openGroup _ next => some [next]
  | .closeGroup _ next => some [next]
  | .branch nexts => some nexts
  | .char _ _ | .oneOf _ _ | .accept => none

/-- A history after a step that needs no character. -/
def Step.note (s : Spot) (h : History) : Step → History
  | .openGroup g _ => .opened g s.bytes :: h
  | .closeGroup g _ => .closed g s.bytes :: h
  | _ => h

/-- The threads that go on for a thread at a place without a character; `none` if it waits. -/
def Thread.onward? (p : Program) (s : Spot) (t : Thread) : Option (List Thread) :=
  ((p.step t.step).onward? s).map fun nexts =>
    nexts.map fun next => ⟨next, (p.step t.step).note s t.history⟩

theorem Thread.onward?_eq_some_iff {p : Program} {s : Spot} {t : Thread} {nexts : List Thread} :
    t.onward? p s = some nexts ↔ ∃ js, (p.step t.step).onward? s = some js ∧
      nexts = js.map fun j => ⟨j, (p.step t.step).note s t.history⟩ := by
  rw [Thread.onward?, Option.map_eq_some_iff]
  exact exists_congr fun _ => and_congr_right fun _ => eq_comm

theorem Step.length_onward? {s : Spot} {step : Step} {nexts : List Nat}
    (h : step.onward? s = some nexts) : nexts.length ≤ step.degree := by
  cases step with
  | look l next =>
      cases h
      split
      · exact Nat.le_refl 1
      · exact Nat.zero_le 1
  | openGroup g next => cases h; exact Nat.le_refl 1
  | closeGroup g next => cases h; exact Nat.le_refl 1
  | branch nexts => cases h; exact Nat.le_refl _
  | char c next => cases h
  | oneOf set next => cases h
  | accept => cases h

/-! ## Visits -/

/-- Threads are followed, the preferred first, where the steps in `V` are visited already: the
threads in `w` come to wait, and the steps in `V'` are visited then. -/
inductive Visits (onward : Thread → Option (List Thread)) :
    List Thread → Set Nat → List Thread → Set Nat → Prop where
  | done {V : Set Nat} : Visits onward [] V [] V
  | again {t : Thread} {todo w : List Thread} {V V' : Set Nat} (ht : t.step ∈ V)
      (htodo : Visits onward todo V w V') : Visits onward (t :: todo) V w V'
  | onward {t : Thread} {nexts todo w : List Thread} {V V' : Set Nat} (ht : t.step ∉ V)
      (hnexts : onward t = some nexts)
      (htodo : Visits onward (nexts ++ todo) (insert t.step V) w V') :
      Visits onward (t :: todo) V w V'
  | wait {t : Thread} {todo w : List Thread} {V V' : Set Nat} (ht : t.step ∉ V)
      (hwait : onward t = none) (htodo : Visits onward todo (insert t.step V) w V') :
      Visits onward (t :: todo) V (t :: w) V'

namespace Visits

variable {onward : Thread → Option (List Thread)} {todo more w w' : List Thread}
  {V V' V'' : Set Nat}

theorem append (h : Visits onward todo V w V') (h' : Visits onward more V' w' V'') :
    Visits onward (todo ++ more) V (w ++ w') V'' := by
  induction h with
  | done => exact h'
  | again ht _ ih => exact .again ht (ih h')
  | onward ht hnexts _ ih =>
      refine .onward ht hnexts ?_
      change Visits onward (_ ++ (_ ++ more)) _ _ _
      rw [← List.append_assoc]
      exact ih h'
  | wait ht hwait _ ih => exact .wait ht hwait (ih h')

theorem unique (h : Visits onward todo V w V') (h' : Visits onward todo V w' V'') :
    w = w' ∧ V' = V'' := by
  induction h generalizing w' V'' with
  | done => cases h'; exact ⟨rfl, rfl⟩
  | again ht _ ih =>
      cases h' with
      | again _ htodo => exact ih htodo
      | onward hnot _ _ => exact absurd ht hnot
      | wait hnot _ _ => exact absurd ht hnot
  | onward ht hnexts _ ih =>
      cases h' with
      | again hseen _ => exact absurd hseen ht
      | onward _ hnexts' htodo =>
          cases hnexts.symm.trans hnexts'
          exact ih htodo
      | wait _ hwait _ => exact absurd (hnexts.symm.trans hwait) (Option.some_ne_none _)
  | wait ht hwait _ ih =>
      cases h' with
      | again hseen _ => exact absurd hseen ht
      | onward _ hnexts _ => exact absurd (hnexts.symm.trans hwait) (Option.some_ne_none _)
      | wait _ _ htodo => exact (ih htodo).imp_left (congrArg _)

theorem subset (h : Visits onward todo V w V') : V ⊆ V' := by
  induction h with
  | done => exact Set.Subset.rfl
  | again _ _ ih => exact ih
  | onward _ _ _ ih => exact (Set.subset_insert _ _).trans ih
  | wait _ _ _ ih => exact (Set.subset_insert _ _).trans ih

/-- What is to be followed is visited. -/
theorem step_mem (h : Visits onward todo V w V') : ∀ t ∈ todo, t.step ∈ V' := by
  induction h with
  | done => exact fun _ ht => absurd ht List.not_mem_nil
  | again ht htodo ih => exact List.forall_mem_cons.mpr ⟨htodo.subset ht, ih⟩
  | onward _ _ htodo ih =>
      exact List.forall_mem_cons.mpr ⟨htodo.subset (Set.mem_insert _ _),
        fun t ht => ih t (List.mem_append_right _ ht)⟩
  | wait _ _ htodo ih => exact List.forall_mem_cons.mpr ⟨htodo.subset (Set.mem_insert _ _), ih⟩

/-- A step that is visited was so before, or a thread came to it: one that waits, or one whose
ways on were visited too. -/
theorem exists_thread (h : Visits onward todo V w V') :
    ∀ i ∈ V', i ∈ V ∨ ∃ t : Thread, t.step = i ∧ (onward t = none → t ∈ w) ∧
      ∀ nexts, onward t = some nexts → ∀ u ∈ nexts, u.step ∈ V' := by
  induction h with
  | done => exact fun i hi => .inl hi
  | again _ _ ih => exact ih
  | @onward t nexts todo w V V' ht hnexts htodo ih =>
      intro i hi
      rcases ih i hi with hi | hi
      · rcases Set.mem_insert_iff.mp hi with rfl | hi
        · refine .inr ⟨t, rfl, fun hwait => ?_, fun nexts' hnexts' u hu => ?_⟩
          · exact absurd (hnexts.symm.trans hwait) (Option.some_ne_none _)
          · cases hnexts.symm.trans hnexts'
            exact htodo.step_mem u (List.mem_append_left _ hu)
        · exact .inl hi
      · exact .inr hi
  | @wait t todo w V V' ht hwait htodo ih =>
      intro i hi
      rcases ih i hi with hi | ⟨u, hu, huw, hnexts⟩
      · rcases Set.mem_insert_iff.mp hi with rfl | hi
        · refine .inr ⟨t, rfl, fun _ => List.mem_cons_self, fun nexts hnexts => ?_⟩
          exact absurd (hnexts.symm.trans hwait) (Option.some_ne_none _)
        · exact .inl hi
      · exact .inr ⟨u, hu, fun h => List.mem_cons_of_mem _ (huw h), hnexts⟩

/-- What holds of the threads to be followed, and of those that go on for a thread of which it
holds, holds of all threads that come to wait. -/
theorem forall_wait {P : Thread → Prop} (h : Visits onward todo V w V')
    (honward : ∀ t nexts, P t → onward t = some nexts → ∀ u ∈ nexts, P u)
    (htodo : ∀ t ∈ todo, P t) : ∀ t ∈ w, P t := by
  induction h with
  | done => exact htodo
  | again _ _ ih => exact ih (List.forall_mem_cons.mp htodo).2
  | onward _ hnexts _ ih =>
      obtain ⟨ht, htodo⟩ := List.forall_mem_cons.mp htodo
      exact ih (List.forall_mem_append.mpr ⟨honward _ _ ht hnexts, htodo⟩)
  | wait _ _ _ ih =>
      obtain ⟨ht, htodo⟩ := List.forall_mem_cons.mp htodo
      exact List.forall_mem_cons.mpr ⟨ht, ih htodo⟩

/-- Threads at steps without a way to one that is kept may be left out from the start: what is
kept comes to the same. -/
theorem filter (keep : Nat → Prop) [DecidablePred keep] (h : Visits onward todo V w V')
    (honward : ∀ t nexts, ¬ keep t.step → onward t = some nexts → ∀ u ∈ nexts, ¬ keep u.step) :
    Visits (fun t => (onward t).map (List.filter fun u => keep u.step))
      (todo.filter fun t => keep t.step) (V ∩ {i | keep i})
      (w.filter fun t => keep t.step) (V' ∩ {i | keep i}) := by
  -- a mark on a step that is left out is not seen
  have insert_of_not {i : Nat} {V : Set Nat} (hi : ¬ keep i) :
      insert i V ∩ {i | keep i} = V ∩ {i | keep i} := Set.insert_inter_of_notMem hi
  have insert_of {i : Nat} {V : Set Nat} (hi : keep i) :
      insert i V ∩ {i | keep i} = insert i (V ∩ {i | keep i}) := Set.insert_inter_of_mem hi
  induction h with
  | done => exact .done
  | @again t todo w V V' ht _ ih =>
      by_cases hk : keep t.step
      · rw [List.filter_cons_of_pos (by simpa using hk)]
        exact .again ⟨ht, hk⟩ ih
      · rw [List.filter_cons_of_neg (by simpa using hk)]
        exact ih
  | @onward t nexts todo w V V' ht hnexts _ ih =>
      rw [List.filter_append] at ih
      by_cases hk : keep t.step
      · rw [insert_of hk] at ih
        rw [List.filter_cons_of_pos (by simpa using hk)]
        exact .onward (fun h => ht h.1) (by rw [hnexts]; rfl) ih
      · have hnone : nexts.filter (fun u => keep u.step) = [] :=
          List.filter_eq_nil_iff.mpr fun u hu => by simpa using honward t nexts hk hnexts u hu
        rw [insert_of_not hk, hnone] at ih
        rw [List.filter_cons_of_neg (by simpa using hk)]
        exact ih
  | @wait t todo w V V' ht hwait _ ih =>
      by_cases hk : keep t.step
      · rw [insert_of hk] at ih
        rw [List.filter_cons_of_pos (by simpa using hk),
          List.filter_cons_of_pos (by simpa using hk)]
        exact .wait (fun h => ht h.1) (by rw [hwait]; rfl) ih
      · rw [insert_of_not hk] at ih
        rw [List.filter_cons_of_neg (by simpa using hk),
          List.filter_cons_of_neg (by simpa using hk)]
        exact ih

end Visits

/-! ## The degrees of the steps not yet visited -/

/-- The sum of the degrees of the steps that are not visited. -/
def openDegree : List Step → List Bool → Nat
  | step :: steps, seen :: rest => (if seen then 0 else step.degree) + openDegree steps rest
  | _, _ => 0

theorem openDegree_set (steps : List Step) {visited : List Bool} {i : Nat}
    (h : visited[i]? = some false) :
    openDegree steps (visited.set i true) + (steps.getD i (.branch [])).degree =
      openDegree steps visited := by
  induction visited generalizing steps i with
  | nil => cases h
  | cons seen visited ih =>
      cases steps with
      | nil => cases i <;> rfl
      | cons step steps =>
          cases i with
          | zero =>
              cases h
              simp [openDegree, Nat.add_comm]
          | succ i =>
              have hrest := ih steps h
              simp only [List.set_cons_succ, openDegree, List.getD_cons_succ]
              omega

theorem openDegree_le_foldl (steps : List Step) (visited : List Bool) (k : Nat) :
    openDegree steps visited + k ≤ steps.foldl (fun n s => n + s.degree + 1) k := by
  induction steps generalizing visited k with
  | nil => exact Nat.le_of_eq (Nat.zero_add k)
  | cons step steps ih =>
      rw [List.foldl_cons]
      cases visited with
      | nil => exact le_trans (by simp only [openDegree]; omega) (ih [] _)
      | cons seen visited =>
          refine le_trans ?_ (ih visited _)
          simp only [openDegree]
          split <;> omega

namespace Front

/-- The steps visited; those beyond the program count as visited. -/
def seen (f : Front) : Set Nat := {i | f.visited.getD i true = true}

/-- The front with one more step visited. -/
def visit (f : Front) (i : Nat) : Front := { f with visited := f.visited.setIfInBounds i true }

/-- The front with one more thread that waits. -/
def wait (f : Front) (t : Thread) : Front := { f with threads := f.threads.push t }

/-- The degrees of the steps that are not visited. -/
def openDegree (p : Program) (f : Front) : Nat :=
  Pattern.openDegree p.steps.toList f.visited.toList

variable {p : Program} {s : Spot} {f : Front} {i : Nat}

theorem mem_seen : i ∈ f.seen ↔ f.visited.getD i true = true := Iff.rfl

theorem getElem?_of_notMem_seen (h : i ∉ f.seen) : f.visited[i]? = some false := by
  rw [mem_seen, Array.getD_eq_getD_getElem?] at h
  cases hi : f.visited[i]? with
  | none => exact absurd (by rw [hi]; rfl) h
  | some b =>
      cases b with
      | false => rfl
      | true => exact absurd (by rw [hi]; rfl) h

theorem seen_visit (h : i ∉ f.seen) : (f.visit i).seen = insert i f.seen := by
  have hi : i < f.visited.size := (Array.getElem?_eq_some_iff.mp (getElem?_of_notMem_seen h)).1
  ext j
  rw [Set.mem_insert_iff, mem_seen, mem_seen, visit, Array.getD_eq_getD_getElem?,
    Array.getD_eq_getD_getElem?, Array.getElem?_setIfInBounds]
  by_cases hij : i = j
  · subst hij
    simp [hi]
  · simp [hij, Ne.symm hij]

theorem openDegree_visit (h : i ∉ f.seen) :
    (f.visit i).openDegree p + (p.step i).degree = f.openDegree p := by
  have hi : f.visited.toList[i]? = some false := by
    rw [Array.getElem?_toList]
    exact getElem?_of_notMem_seen h
  have hset := openDegree_set p.steps.toList hi
  rw [List.getD_eq_getElem?_getD, Array.getElem?_toList, ← Array.getD_eq_getD_getElem?] at hset
  rw [openDegree, visit, Array.toList_setIfInBounds]
  exact hset

/-- What one unit of fuel does. -/
theorem follow_cons (fuel : Nat) (t : Thread) (todo : List Thread) :
    f.follow p s (fuel + 1) (t :: todo) =
      if f.visited.getD t.step true then f.follow p s fuel todo
      else
        match t.onward? p s with
        | some nexts => (f.visit t.step).follow p s fuel (nexts ++ todo)
        | none => ((f.visit t.step).wait t).follow p s fuel todo := by
  rw [follow, Thread.onward?]
  split
  · rfl
  · cases p.step t.step with
    | look l next =>
        simp only [Step.onward?, Option.map_some, Step.note]
        split <;> rfl
    | openGroup g next => rfl
    | closeGroup g next => rfl
    | branch nexts => rfl
    | char c next => rfl
    | oneOf set next => rfl
    | accept => rfl

/-- With enough fuel, following threads is visiting. -/
theorem follow_visits (fuel : Nat) (todo : List Thread) (f : Front)
    (h : todo.length + f.openDegree p ≤ fuel) :
    ∃ w, Visits (Thread.onward? p s) todo f.seen w (f.follow p s fuel todo).seen ∧
      (f.follow p s fuel todo).threads.toList = f.threads.toList ++ w ∧
      (f.follow p s fuel todo).openDegree p ≤ f.openDegree p := by
  induction fuel generalizing todo f with
  | zero =>
      have hnil : todo = [] := List.length_eq_zero_iff.mp (by omega)
      subst hnil
      exact ⟨[], .done, (List.append_nil _).symm, Nat.le_refl _⟩
  | succ fuel ih =>
      cases todo with
      | nil => exact ⟨[], .done, (List.append_nil _).symm, Nat.le_refl _⟩
      | cons t todo =>
          rw [List.length_cons] at h
          rw [follow_cons]
          by_cases ht : t.step ∈ f.seen
          · rw [if_pos (mem_seen.mp ht)]
            obtain ⟨w, hvisits, hthreads, hdegree⟩ := ih todo f (by omega)
            exact ⟨w, .again ht hvisits, hthreads, hdegree⟩
          · have hdegree := openDegree_visit (p := p) ht
            rw [if_neg (fun h => ht (mem_seen.mpr h))]
            cases honward : t.onward? p s with
            | some nexts =>
                dsimp only
                have hlength : nexts.length ≤ (p.step t.step).degree := by
                  obtain ⟨js, hjs, rfl⟩ := Thread.onward?_eq_some_iff.mp honward
                  rw [List.length_map]
                  exact Step.length_onward? hjs
                obtain ⟨w, hvisits, hthreads, hless⟩ :=
                  ih (nexts ++ todo) (f.visit t.step) (by rw [List.length_append]; omega)
                rw [seen_visit ht] at hvisits
                exact ⟨w, .onward ht honward hvisits, hthreads, by omega⟩
            | none =>
                dsimp only
                have hwait : ((f.visit t.step).wait t).seen = insert t.step f.seen := seen_visit ht
                have hsame : ((f.visit t.step).wait t).openDegree p =
                    (f.visit t.step).openDegree p := rfl
                obtain ⟨w, hvisits, hthreads, hless⟩ :=
                  ih todo ((f.visit t.step).wait t) (by omega)
                rw [hwait] at hvisits
                refine ⟨t :: w, .wait ht honward hvisits, ?_, by omega⟩
                rw [hthreads, wait, Array.toList_push, List.append_assoc]
                rfl

end Front

/-! ## All threads at a place -/

/-- A program has moves enough to visit all its steps. -/
def Program.HasMoves (p : Program) : Prop :=
  ∀ visited, openDegree p.steps.toList visited + 1 ≤ p.moves

theorem Program.hasMoves_ofExpression (e : Expression) : (Program.ofExpression e).HasMoves := by
  intro visited
  rw [Program.ofExpression]
  dsimp only
  rw [← Array.foldl_toList]
  exact openDegree_le_foldl _ visited 1

/-- The front at a place, from the threads that come there. -/
def Front.of (p : Program) (s : Spot) (todo : List Thread) : Front :=
  todo.foldl (Front.add p s) (Front.empty p)

/-- The threads that wait at a place, from those that come there. -/
def waiting (p : Program) (s : Spot) (todo : List Thread) : List Thread :=
  (Front.of p s todo).threads.toList

variable {p : Program}

theorem Front.foldl_add_visits (hp : p.HasMoves) (s : Spot) (todo : List Thread) (f : Front) :
    ∃ w, Visits (Thread.onward? p s) todo f.seen w (todo.foldl (Front.add p s) f).seen ∧
      (todo.foldl (Front.add p s) f).threads.toList = f.threads.toList ++ w := by
  induction todo generalizing f with
  | nil => exact ⟨[], .done, (List.append_nil _).symm⟩
  | cons t todo ih =>
      obtain ⟨w, hvisits, hthreads, -⟩ :=
        Front.follow_visits (s := s) p.moves [t] f
          (by rw [List.length_singleton, Nat.add_comm]; exact hp f.visited.toList)
      obtain ⟨w', hvisits', hthreads'⟩ := ih (f.add p s t)
      refine ⟨w ++ w', hvisits.append hvisits', ?_⟩
      rw [List.foldl_cons, hthreads', Front.add, hthreads, List.append_assoc]

/-- The threads that come to a place visit from the steps beyond the program on. -/
theorem waiting_visits (hp : p.HasMoves) (s : Spot) (todo : List Thread) :
    Visits (Thread.onward? p s) todo (Front.empty p).seen (waiting p s todo)
      (Front.of p s todo).seen := by
  obtain ⟨w, hvisits, hthreads⟩ := Front.foldl_add_visits hp s todo (Front.empty p)
  rw [waiting, Front.of, hthreads]
  exact hvisits

theorem waiting_append (hp : p.HasMoves) (s : Spot) (todo more : List Thread) :
    ∃ w, waiting p s (todo ++ more) = waiting p s todo ++ w := by
  obtain ⟨w, -, hthreads⟩ := Front.foldl_add_visits hp s more (Front.of p s todo)
  refine ⟨w, ?_⟩
  rw [waiting, Front.of, List.foldl_append]
  exact hthreads

end CaptureTypes.Pattern
