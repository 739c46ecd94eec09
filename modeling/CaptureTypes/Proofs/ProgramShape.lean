/-
# The shape of a program

Compiling an expression against a step puts a block of steps behind those
that are there.  The block leads nowhere but to itself and to that step; it
does not accept, and it marks only the groups of the expression.  `Laid` says
this of a block, and `Laid.trans` puts one block before another, so that each
way to lay out an expression is treated once.

The program of an expression has its block between the mark that opens
group 0 and the one that closes it.  So whatever a thread does on its way,
group 0 is opened once, where the match starts, and closed once, where it
ends; what the history says of other groups happened between: `ranges_of_race`.
-/
import CaptureTypes.Proofs.Chronicle
import CaptureTypes.Proofs.GroupList

namespace CaptureTypes.Pattern

/-! ## Blocks of steps -/

/-- A step that leads only to certain steps, does not accept and does not mark group 0. -/
def Step.Inside (into : Nat → Prop) : Step → Prop
  | .char _ next | .oneOf _ next | .look _ next => into next
  | .openGroup g next | .closeGroup g next => g ≠ 0 ∧ into next
  | .branch nexts => ∀ next ∈ nexts, into next
  | .accept => False

theorem Step.Inside.mono {into into' : Nat → Prop} (h : ∀ i, into i → into' i) {step : Step}
    (hstep : step.Inside into) : step.Inside into' := by
  cases step with
  | char c next => exact h _ hstep
  | oneOf set next => exact h _ hstep
  | look l next => exact h _ hstep
  | openGroup g next => exact hstep.imp_right (h _)
  | closeGroup g next => exact hstep.imp_right (h _)
  | branch nexts => exact fun next hnext => h _ (hstep next hnext)
  | accept => exact hstep

/-- A step is `next` or belongs to what was put behind `p` in `q`. -/
def Within (next : Nat) (p q : Steps) (i : Nat) : Prop := i = next ∨ p.size ≤ i ∧ i < q.size

/-- In `q` a block stands behind the steps of `p` that leads to nothing but itself and `next`. -/
structure Block (next : Nat) (p q : Steps) : Prop where
  size_le : p.size ≤ q.size
  kept : ∀ i < p.size, q[i]? = p[i]?
  inside : ∀ i step, p.size ≤ i → q[i]? = some step → step.Inside (Within next p q)

/-- A block and the step at which it starts. -/
structure Laid (next : Nat) (p : Steps) (r : Nat × Steps) : Prop extends Block next p r.2 where
  start : Within next p r.2 r.1

theorem Block.refl (next : Nat) (p : Steps) : Block next p p where
  size_le := Nat.le_refl _
  kept _ _ := rfl
  inside i step hi hstep := by
    rw [Array.getElem?_eq_none hi] at hstep
    cases hstep

theorem Block.trans {next mid : Nat} {p q r : Steps} (h : Block next p q)
    (hmid : Within next p q mid) (h' : Block mid q r) : Block next p r := by
  have hsize := h.size_le
  have hsize' := h'.size_le
  constructor
  · omega
  · intro i hi
    rw [h'.kept i (by omega), h.kept i hi]
  · intro i step hi hstep
    by_cases hiq : i < q.size
    · rw [h'.kept i hiq] at hstep
      refine (h.inside i step hi hstep).mono fun j hj => ?_
      exact hj.imp_right fun hj => ⟨hj.1, by omega⟩
    · refine (h'.inside i step (by omega) hstep).mono fun j hj => ?_
      rcases hj with rfl | hj
      · exact hmid.imp_right fun hmid => ⟨hmid.1, by omega⟩
      · exact .inr ⟨by omega, hj.2⟩

theorem Within.trans {next mid i : Nat} {p q r : Steps} (hpq : p.size ≤ q.size)
    (hqr : q.size ≤ r.size) (hmid : Within next p q mid) (h : Within mid q r i) :
    Within next p r i := by
  rcases h with rfl | h
  · exact hmid.imp_right fun hmid => ⟨hmid.1, by omega⟩
  · exact .inr ⟨by omega, h.2⟩

namespace Laid

variable {next mid start : Nat} {p q r : Steps}

theorem refl (next : Nat) (p : Steps) : Laid next p (next, p) := ⟨.refl next p, .inl rfl⟩

/-- A block is laid out before another one, to whose start it leads. -/
theorem trans (h : Laid next p (mid, q)) (h' : Laid mid q (start, r)) : Laid next p (start, r) :=
  ⟨h.toBlock.trans h.start h'.toBlock, h.start.trans h.size_le h'.size_le h'.start⟩

end Laid

theorem Within.push {next i : Nat} {p q : Steps} (h : Within next p q i) (step : Step) :
    Within next p (q.push step) i :=
  h.imp_right fun h => ⟨h.1, by rw [Array.size_push]; omega⟩

/-- One more step behind a block. -/
theorem Block.add {next : Nat} {p q : Steps} (h : Block next p q) {step : Step}
    (hstep : step.Inside (Within next p q)) : Laid next p (q.add step) where
  size_le := by
    rw [Steps.add, Array.size_push]
    exact Nat.le_succ_of_le h.size_le
  kept i hi := by
    have hiq : i < q.size := Nat.lt_of_lt_of_le hi h.size_le
    rw [Steps.add, Array.getElem?_push_lt hiq, ← Array.getElem?_eq_getElem hiq, h.kept i hi]
  inside i s hi hs := by
    rw [Steps.add, Array.getElem?_push] at hs
    split at hs
    · cases hs
      exact hstep.mono fun _ hj => hj.push step
    · exact (h.inside i s hi hs).mono fun _ hj => hj.push step
  start := .inr ⟨h.size_le, by rw [Steps.add, Array.size_push]; exact Nat.lt_succ_self _⟩

/-! ## Repetitions -/

namespace Steps

theorem inside_turn {into : Nat → Prop} {greedy : Bool} {again past : Nat} (hagain : into again)
    (hpast : into past) : (turn greedy again past).Inside into := by
  cases greedy with
  | true => exact List.forall_mem_cons.mpr ⟨hagain, List.forall_mem_singleton.mpr hpast⟩
  | false => exact List.forall_mem_cons.mpr ⟨hpast, List.forall_mem_singleton.mpr hagain⟩

variable {body : Nat → Steps → Nat × Steps}

theorem laid_copies (hbody : ∀ next p, Laid next p (body next p)) (n next : Nat) (p : Steps) :
    Laid next p (copies body n next p) := by
  induction n with
  | zero => exact .refl next p
  | succ n ih => exact ih.trans (hbody _ _)

theorem laid_optionals (hbody : ∀ next p, Laid next p (body next p)) (greedy : Bool)
    (n next : Nat) (p : Steps) : Laid next p (optionals greedy next body n next p) := by
  induction n with
  | zero => exact .refl next p
  | succ n ih =>
      have hlaid := ih.trans (hbody _ _)
      exact hlaid.toBlock.add (inside_turn hlaid.start (.inl rfl))

theorem laid_loop (hbody : ∀ next p, Laid next p (body next p)) (greedy : Bool) (next : Nat)
    (p : Steps) :
    Laid next p ((loop greedy next body p).1, (loop greedy next body p).2.2) ∧
      Within next p (loop greedy next body p).2.2 (loop greedy next body p).2.1 := by
  have hlaid := hbody p.size (p.push (.branch []))
  obtain ⟨⟨hsize, hkept, hinside⟩, hstart⟩ := hlaid
  have hloop : loop greedy next body p =
      ((body p.size (p.push (.branch []))).1, p.size,
        (body p.size (p.push (.branch []))).2.setIfInBounds p.size
          (turn greedy (body p.size (p.push (.branch []))).1 next)) := rfl
  rw [hloop]
  generalize body p.size (p.push (.branch [])) = r at hsize hkept hinside hstart
  obtain ⟨start, q⟩ := r
  rw [Array.size_push] at hsize hkept hinside
  dsimp only at *
  -- the block of the body leads to the branch, which belongs to the loop
  have hwithin (i : Nat) (hi : Within p.size (p.push (.branch [])) q i) :
      Within next p (q.setIfInBounds p.size (turn greedy start next)) i := by
    rw [Within, Array.size_push] at hi
    rw [Within, Array.size_setIfInBounds]
    omega
  refine ⟨⟨⟨?_, ?_, ?_⟩, hwithin _ hstart⟩, hwithin _ (.inl rfl)⟩
  · rw [Array.size_setIfInBounds]
    omega
  · intro i hi
    rw [Array.getElem?_setIfInBounds_ne (by omega), hkept i (by omega), Array.getElem?_push_lt hi,
      Array.getElem?_eq_getElem hi]
  · intro i step hi hstep
    by_cases hback : i = p.size
    · rw [hback, Array.getElem?_setIfInBounds_self_of_lt (by omega)] at hstep
      cases hstep
      exact inside_turn (hwithin _ hstart) (.inl rfl)
    · rw [Array.getElem?_setIfInBounds_ne (Ne.symm hback)] at hstep
      exact (hinside i step (by omega) hstep).mono hwithin

theorem laid_repetition (hbody : ∀ next p, Laid next p (body next p)) (min : Nat)
    (max : Option Nat) (greedy nonEmpty : Bool) (next : Nat) (p : Steps) :
    Laid next p (repetition min max greedy nonEmpty body next p) := by
  unfold repetition
  split
  · exact (laid_optionals hbody greedy _ next p).trans (laid_copies hbody min _ _)
  · obtain ⟨hlaid, hback⟩ := laid_loop hbody greedy next p
    dsimp only
    split
    · split
      · exact ⟨hlaid.toBlock, hback⟩
      · exact hlaid.toBlock.add (inside_turn hlaid.start (.inl rfl))
    · exact hlaid.trans (laid_copies hbody _ _ _)

end Steps

/-! ## Expressions -/

namespace Expression

mutual

/-- An expression without a group 0 is laid out as a block. -/
theorem laid_compile (e : Expression) (h : ∀ x ∈ e.captures, 0 < x.1) (next : Nat) (p : Steps) :
    Laid next p (e.compile next p) := by
  match e with
  | .empty => exact .refl next p
  | .char c => exact (Block.refl next p).add (.inl rfl)
  | .oneOf set => exact (Block.refl next p).add (.inl rfl)
  | .look l => exact (Block.refl next p).add (.inl rfl)
  | .repetition min max greedy sub =>
      exact Steps.laid_repetition (laid_compile sub h) min max greedy _ next p
  | .capture index name sub =>
      obtain ⟨hindex, hsub⟩ := List.forall_mem_cons.mp h
      have hclose : Laid next p (p.add (.closeGroup index next)) :=
        (Block.refl next p).add ⟨Nat.ne_of_gt hindex, .inl rfl⟩
      have hlaid := hclose.trans (laid_compile sub hsub _ _)
      exact hlaid.toBlock.add ⟨Nat.ne_of_gt hindex, hlaid.start⟩
  | .sequence parts => exact laid_compileParts parts h next p
  | .choice branches =>
      obtain ⟨hblock, hstarts⟩ := block_compileBranches branches h next p
      exact hblock.add hstarts

theorem laid_compileParts (parts : List Expression) (h : ∀ x ∈ capturesAll parts, 0 < x.1)
    (next : Nat) (p : Steps) : Laid next p (compileParts parts next p) := by
  match parts with
  | [] => exact .refl next p
  | e :: rest =>
      obtain ⟨he, hrest⟩ := List.forall_mem_append.mp h
      exact (laid_compileParts rest hrest next p).trans (laid_compile e he _ _)

theorem block_compileBranches (branches : List Expression)
    (h : ∀ x ∈ capturesAll branches, 0 < x.1) (next : Nat) (p : Steps) :
    Block next p (compileBranches branches next p).2 ∧
      ∀ start ∈ (compileBranches branches next p).1,
        Within next p (compileBranches branches next p).2 start := by
  match branches with
  | [] => exact ⟨.refl next p, fun _ hi => absurd hi List.not_mem_nil⟩
  | e :: rest =>
      obtain ⟨he, hrest⟩ := List.forall_mem_append.mp h
      have hfirst := laid_compile e he next p
      obtain ⟨hblock, hstarts⟩ := block_compileBranches rest hrest next (e.compile next p).2
      refine ⟨hfirst.toBlock.trans (.inl rfl) hblock, List.forall_mem_cons.mpr ⟨?_, ?_⟩⟩
      · exact hfirst.start.imp_right fun hstart =>
          ⟨hstart.1, Nat.lt_of_lt_of_le hstart.2 hblock.size_le⟩
      · exact fun start hstart =>
          Within.trans hfirst.size_le hblock.size_le (.inl rfl) (hstarts start hstart)

end

end Expression

/-! ## Programs -/

/-- A program whose inner steps stand between the mark that opens group 0, at which it starts,
and the one that closes it, after which it accepts. -/
structure Program.IsFramed (p : Program) : Prop where
  accept : p.step 0 = .accept
  close : p.step 1 = .closeGroup 0 0
  open_start : ∃ next, p.step p.start = .openGroup 0 next ∧ 1 ≤ next ∧ next < p.start
  inside : ∀ i, 2 ≤ i → i < p.start → (p.step i).Inside fun j => 1 ≤ j ∧ j < p.start

theorem Program.step_of_getElem? {p : Program} {i : Nat} {step : Step}
    (h : p.steps[i]? = some step) : p.step i = step := by
  rw [Program.step, Array.getD_eq_getD_getElem?, h]
  rfl

theorem Program.isFramed_ofExpression {e : Expression} (h : ∀ x ∈ e.captures, 0 < x.1) :
    (Program.ofExpression e).IsFramed := by
  have hlaid := e.laid_compile h 1 #[.accept, .closeGroup 0 0]
  have hstart : (Program.ofExpression e).start =
      (e.compile 1 #[.accept, .closeGroup 0 0]).2.size := rfl
  have hsteps : (Program.ofExpression e).steps =
      (e.compile 1 #[.accept, .closeGroup 0 0]).2.push
        (.openGroup 0 (e.compile 1 #[.accept, .closeGroup 0 0]).1) := rfl
  generalize e.compile 1 #[.accept, .closeGroup 0 0] = r at hlaid hstart hsteps
  obtain ⟨first, q⟩ := r
  obtain ⟨⟨hsize, hkept, hinside⟩, hfirst⟩ := hlaid
  change 2 ≤ q.size at hsize
  change first = 1 ∨ 2 ≤ first ∧ first < q.size at hfirst
  have hinner (i : Nat) (hi : i < q.size) (step : Step) (hstep : q[i]? = some step) :
      (Program.ofExpression e).step i = step := by
    refine Program.step_of_getElem? ?_
    rw [hsteps, Array.getElem?_push_lt hi, ← hstep, Array.getElem?_eq_getElem hi]
  constructor
  · exact hinner 0 (by omega) _ (hkept 0 (by decide))
  · exact hinner 1 (by omega) _ (hkept 1 (by decide))
  · refine ⟨first, Program.step_of_getElem? ?_, by omega, by rw [hstart]; dsimp only; omega⟩
    rw [hsteps, hstart]
    exact Array.getElem?_push_size
  · intro i hi hlt
    rw [hstart] at hlt ⊢
    rw [hinner i hlt _ (Array.getElem?_eq_getElem hlt)]
    refine (hinside i _ hi (Array.getElem?_eq_getElem hlt)).mono fun j hj => ?_
    change j = 1 ∨ 2 ≤ j ∧ j < q.size at hj
    dsimp only
    omega

/-! ## Group 0 -/

/-- What holds of a thread on its way from the first step: it is at this step, or inside and
group 0 was opened where the match starts, or at the end and group 0 is closed there. -/
inductive Underway (p : Program) (first s : Spot) (t : Thread) : Prop where
  | start (hs : s = first) (ht : t = p.first)
  | inside (hs : first.Reaches s) (hstep : 1 ≤ t.step ∧ t.step < p.start)
      (hopen : lastOpened 0 t.history = some first.bytes)
  | stop (hs : first.Reaches s) (hstep : t.step = 0)
      (hrange : lastRange 0 t.history = some (first.bytes, s.bytes))

/-- The step after the mark that opens group 0 and before the end: the mark that closes it, or a
step of the expression. -/
theorem Program.IsFramed.step_cases {p : Program} (hp : p.IsFramed) {i : Nat}
    (hi : 1 ≤ i ∧ i < p.start) :
    p.step i = .closeGroup 0 0 ∨ (p.step i).Inside fun j => 1 ≤ j ∧ j < p.start := by
  rcases Nat.eq_or_lt_of_le hi.1 with rfl | hlt
  · exact .inl hp.close
  · exact .inr (hp.inside i hlt hi.2)

namespace Step.Inside

variable {into : Nat → Prop} {step : Step}

theorem lastOpened_note (h : step.Inside into) (s : Spot) (history : History) :
    lastOpened 0 (step.note s history) = lastOpened 0 history := by
  cases step with
  | openGroup g next => exact if_neg h.1
  | closeGroup g next => rfl
  | char c next => rfl
  | oneOf set next => rfl
  | look l next => rfl
  | branch nexts => rfl
  | accept => rfl

theorem onward (h : step.Inside into) {s : Spot} {nexts : List Nat}
    (hnexts : step.onward? s = some nexts) : ∀ j ∈ nexts, into j := by
  cases step with
  | openGroup g next => cases hnexts; exact List.forall_mem_singleton.mpr h.2
  | closeGroup g next => cases hnexts; exact List.forall_mem_singleton.mpr h.2
  | look l next =>
      cases hnexts
      split
      · exact List.forall_mem_singleton.mpr h
      · exact fun _ hj => absurd hj List.not_mem_nil
  | branch nexts => cases hnexts; exact h
  | char c next => cases hnexts
  | oneOf set next => cases hnexts
  | accept => cases hnexts

theorem after (h : step.Inside into) {c : Char} {next : Nat} (hnext : step.after? c = some next) :
    into next := by
  cases step with
  | char d next =>
      rw [Step.after?] at hnext
      split at hnext
      · cases hnext
        exact h
      · cases hnext
  | oneOf set next =>
      rw [Step.after?] at hnext
      split at hnext
      · cases hnext
        exact h
      · cases hnext
  | openGroup g next => cases hnext
  | closeGroup g next => cases hnext
  | look l next => cases hnext
  | branch nexts => cases hnext
  | accept => cases hnext

end Step.Inside

namespace Underway

variable {p : Program} {first s : Spot} {t u : Thread}

theorem onward (hp : p.IsFramed) {nexts : List Thread} (h : Underway p first s t)
    (hnexts : t.onward? p s = some nexts) (hu : u ∈ nexts) : Underway p first s u := by
  obtain ⟨js, hjs, rfl⟩ := Thread.onward?_eq_some_iff.mp hnexts
  obtain ⟨j, hj, rfl⟩ := List.mem_map.mp hu
  cases h with
  | start hs ht =>
      subst hs ht
      obtain ⟨next, hopen, hnext⟩ := hp.open_start
      rw [Program.first, hopen] at hjs ⊢
      cases hjs
      rw [List.mem_singleton.mp hj]
      exact .inside .refl hnext rfl
  | inside hs hstep hopened =>
      rcases hp.step_cases hstep with hclose | hinside
      · rw [hclose] at hjs ⊢
        cases hjs
        rw [List.mem_singleton.mp hj]
        refine .stop hs rfl ?_
        rw [Step.note, lastRange, if_pos rfl, hopened]
        rfl
      · exact .inside hs (hinside.onward hjs j hj) ((hinside.lastOpened_note ..).trans hopened)
  | stop hs hstep hrange =>
      rw [hstep, hp.accept] at hjs
      cases hjs

theorem take (hp : p.IsFramed) {bytes : Nat} {before : Option Char} {c : Char} {rest : List Char}
    (h : Underway p first ⟨bytes, before, c :: rest⟩ t) (hu : t.take? p c = some u) :
    Underway p first ⟨bytes + c.utf8Size, some c, rest⟩ u := by
  obtain ⟨hafter, hhistory⟩ := Thread.take?_eq_some_iff.mp hu
  cases h with
  | start hs ht =>
      obtain ⟨next, hopen, -⟩ := hp.open_start
      rw [ht, Program.first, hopen] at hafter
      cases hafter
  | inside hs hstep hopened =>
      rcases hp.step_cases hstep with hclose | hinside
      · rw [hclose] at hafter
        cases hafter
      · exact .inside hs.pass (hinside.after hafter) (hhistory ▸ hopened)
  | stop hs hstep hrange =>
      rw [hstep, hp.accept] at hafter
      cases hafter

theorem range_of_accepts (hp : p.IsFramed) (h : Underway p first s t) (ht : p.accepts t) :
    first.Reaches s ∧ lastRange 0 t.history = some (first.bytes, s.bytes) := by
  rw [Program.accepts_iff] at ht
  cases h with
  | start hs hfirst =>
      obtain ⟨next, hopen, -⟩ := hp.open_start
      rw [hfirst, Program.first, hopen] at ht
      cases ht
  | inside hs hstep hopened =>
      rcases hp.step_cases hstep with hclose | hinside
      · rw [hclose] at ht
        cases ht
      · rw [ht] at hinside
        exact hinside.elim
  | stop hs hstep hrange => exact ⟨hs, hrange⟩

end Underway

/-- **The ranges of a match.**  A match of the threads that start at a place starts there, and it
ends there or later; its groups are between. -/
theorem ranges_of_race {p : Program} (hp : p.IsFramed) (hmoves : p.HasMoves) {s : Spot}
    {found : History} (h : race p s [p.first] = some found) :
    ∃ t, s.Reaches t ∧ lastRange 0 found = some (s.bytes, t.bytes) ∧
      ∀ g range, lastRange g found = some range → s.Spans t range := by
  obtain ⟨t, thread, ⟨hunderway, hchronicle⟩, haccepts, rfl⟩ :=
    race_sound (fun t thread => Underway p s t thread ∧ Chronicle s t thread.history) hmoves
      (fun _ _ _ ht hnexts _ hu => ⟨ht.1.onward hp hnexts hu, ht.2.onward hnexts hu⟩)
      (fun _ _ _ _ _ _ ht hu => ⟨ht.1.take hp hu, ht.2.take hu⟩) h
      (List.forall_mem_singleton.mpr ⟨.start rfl rfl, .start⟩)
  obtain ⟨hreaches, hrange⟩ := hunderway.range_of_accepts hp haccepts
  exact ⟨t, hreaches, hrange, fun g range hg => hchronicle.lastRange hg⟩

end CaptureTypes.Pattern
