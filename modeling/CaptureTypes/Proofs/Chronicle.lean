/-
# What a thread writes down on its way

A history holds the marks that a thread passed and where it stood then, in
bytes.  The places themselves are gone; `Chronicle` keeps them: the way of a
history begins at one place, has come to another, and each mark was made at
a place on it.  So the range of a group, which is two numbers in the history,
goes from one place to another between the two ends of the way
(`Chronicle.lastRange`), however often the group was opened and closed.
-/
import CaptureTypes.Proofs.Race
import CaptureTypes.Proofs.Spots

namespace CaptureTypes.Pattern

/-- A range from one place to another, both between two given places. -/
def Spot.Spans (a b : Spot) (range : Nat × Nat) : Prop :=
  ∃ p q : Spot, a.Reaches p ∧ p.Reaches q ∧ q.Reaches b ∧ range = (p.bytes, q.bytes)

/-- The history of a way that began at one place and has come to another. -/
inductive Chronicle (first : Spot) : Spot → History → Prop where
  | start : Chronicle first first []
  | pass {bytes : Nat} {before : Option Char} {c : Char} {rest : List Char} {history : History}
      (h : Chronicle first ⟨bytes, before, c :: rest⟩ history) :
      Chronicle first ⟨bytes + c.utf8Size, some c, rest⟩ history
  | opened {s : Spot} {history : History} (g : Nat) (h : Chronicle first s history) :
      Chronicle first s (.opened g s.bytes :: history)
  | closed {s : Spot} {history : History} (g : Nat) (h : Chronicle first s history) :
      Chronicle first s (.closed g s.bytes :: history)

namespace Chronicle

variable {first s : Spot} {history : History} {g : Nat}

theorem reaches (h : Chronicle first s history) : first.Reaches s := by
  induction h with
  | start => exact .refl
  | pass _ ih => exact ih.pass
  | opened _ _ ih => exact ih
  | closed _ _ ih => exact ih

/-- A group was last opened at a place on the way. -/
theorem lastOpened {bytes : Nat} (h : Chronicle first s history)
    (hopened : lastOpened g history = some bytes) :
    ∃ p : Spot, first.Reaches p ∧ p.Reaches s ∧ p.bytes = bytes := by
  induction h with
  | start => cases hopened
  | pass _ ih =>
      obtain ⟨p, hp, hps, hbytes⟩ := ih hopened
      exact ⟨p, hp, hps.pass, hbytes⟩
  | @opened s history g' h ih =>
      by_cases hg : g' = g
      · have hhere : s.bytes = bytes := by
          rw [Pattern.lastOpened, if_pos hg] at hopened
          exact Option.some.inj hopened
        exact ⟨s, h.reaches, .refl, hhere⟩
      · rw [Pattern.lastOpened, if_neg hg] at hopened
        exact ih hopened
  | closed _ _ ih => exact ih hopened

/-- **The range of a group.**  It goes from one place on the way to another. -/
theorem lastRange {range : Nat × Nat} (h : Chronicle first s history)
    (hrange : lastRange g history = some range) : first.Spans s range := by
  induction h with
  | start => cases hrange
  | pass _ ih =>
      obtain ⟨p, q, hp, hpq, hq, heq⟩ := ih hrange
      exact ⟨p, q, hp, hpq, hq.pass, heq⟩
  | opened _ _ ih => exact ih hrange
  | @closed s history g' h ih =>
      by_cases hg : g' = g
      · rw [Pattern.lastRange, if_pos hg] at hrange
        obtain ⟨bytes, hopened, rfl⟩ := Option.map_eq_some_iff.mp hrange
        obtain ⟨p, hp, hps, rfl⟩ := h.lastOpened hopened
        exact ⟨p, s, hp, hps, .refl, rfl⟩
      · rw [Pattern.lastRange, if_neg hg] at hrange
        exact ih hrange

/-! ## Threads on their way -/

theorem note (h : Chronicle first s history) (step : Step) :
    Chronicle first s (step.note s history) := by
  cases step with
  | openGroup g next => exact h.opened g
  | closeGroup g next => exact h.closed g
  | char c next => exact h
  | oneOf set next => exact h
  | look l next => exact h
  | branch nexts => exact h
  | accept => exact h

variable {p : Program} {t u : Thread}

theorem onward {nexts : List Thread} (h : Chronicle first s t.history)
    (hnexts : t.onward? p s = some nexts) (hu : u ∈ nexts) : Chronicle first s u.history := by
  obtain ⟨js, -, rfl⟩ := Thread.onward?_eq_some_iff.mp hnexts
  obtain ⟨j, -, rfl⟩ := List.mem_map.mp hu
  exact h.note (p.step t.step)

theorem take {bytes : Nat} {before : Option Char} {c : Char} {rest : List Char}
    (h : Chronicle first ⟨bytes, before, c :: rest⟩ t.history) (hu : t.take? p c = some u) :
    Chronicle first ⟨bytes + c.utf8Size, some c, rest⟩ u.history := by
  obtain ⟨-, hhistory⟩ := Thread.take?_eq_some_iff.mp hu
  rw [← hhistory]
  exact h.pass

end Chronicle

end CaptureTypes.Pattern
