/-
# Reading step by step

A `Reading` takes tokens from the front of its input.  One that is put
together from steps succeeds iff all steps do, each on what the step before
it left (`bind_eq_ok_iff`); the small lemmas say what single steps do.
-/
import CaptureTypes.Grammar.Input

namespace CaptureTypes.Grammar

variable {α β : Type} {i j k : Input}

theorem bind_eq_ok_iff {p : Reading α} {f : α → Reading β} {b : β} :
    (p >>= f) i = .ok (b, k) ↔ ∃ a j, p i = .ok (a, j) ∧ f a j = .ok (b, k) := by
  cases h : p i with
  | error c => simp [bind, StateT.bind, Except.bind, h]
  | ok aj =>
      obtain ⟨a, j⟩ := aj
      simp only [bind, StateT.bind, Except.bind, h]
      constructor
      · exact fun hb => ⟨a, j, rfl, hb⟩
      · rintro ⟨_, _, heq, hb⟩
        cases heq
        exact hb

theorem bind_of_ok {p : Reading α} {f : α → Reading β} {a : α} (h : p i = .ok (a, j)) :
    (p >>= f) i = f a j := by
  simp [bind, StateT.bind, Except.bind, h]

theorem sees_bind {p : List SourceToken → Bool} {f : Bool → Reading β} :
    (sees p >>= f) i = f (p i.tokens) i := rfl

end CaptureTypes.Grammar
