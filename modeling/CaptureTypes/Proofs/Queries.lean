/-
# Four questions, one answer

A matcher is asked whether there is a match, which one is the leftmost, for
the same into a slot, and for all matches.  The searches behind the questions
differ: the first ends with any thread that accepts and keeps no groups, and
the walk of the last one brings a place and an end of its own.
`Matcher.queries_agree` says that the answers agree all the same, whatever
the slot held before.
-/
import CaptureTypes.Proofs.MatchWalk

namespace CaptureTypes

open Pattern (Recipe Compiled)

namespace Matcher

/-- The answers to questions that share a slot: whether there is a match, and what the slot holds
then. -/
def tryAll (m : Matcher) (slot : Option Match) : List String → List (Bool × Option Match)
  | [] => []
  | text :: texts =>
    let answer := m.tryMatch text slot
    answer :: m.tryAll answer.2 texts

theorem tryAll_eq (m : Matcher) (slot : Option Match) (texts : List String) :
    m.tryAll slot texts = texts.map fun text => ((m.find text).isSome, m.find text) := by
  induction texts generalizing slot with
  | nil => rfl
  | cons text texts ih =>
      rw [tryAll, ih]
      rfl

/-- The search that only asks whether there is a match agrees with the one that finds it. -/
theorem isMatch_eq {r : Recipe} {m : Matcher} (h : r.compile = .ok m.compiled) (text : String) :
    m.isMatch text = (m.find text).isSome := by
  rw [isMatch, find, Option.isSome_map]
  exact Compiled.matchesIn_eq h text.toList

theorem head?_findAll (m : Matcher) (text : String) :
    (m.findAll text).head? = ((m.walk text).next m).1 := by
  rw [findAll, Matches.rest, Matches.drain]
  split
  · rename_i walk hnext
    rw [hnext]
    rfl
  · rename_i found walk hnext
    rw [hnext]
    rfl

/-- **The four questions agree.**  For every pattern that compiles, every text and whatever the
slot held: there is a match iff one is found, iff the slot is said to be filled, iff the walk has
a first match.  The slot then holds what is found, also after questions about other texts, and
the first match of the walk is the one found, with its range and its groups. -/
theorem queries_agree {r : Recipe} {m : Matcher} (h : r.compile = .ok m.compiled)
    (text : String) :
    m.isMatch text = (m.find text).isSome ∧
      (∀ slot, m.tryMatch text slot = (m.isMatch text, m.find text)) ∧
      (∀ slot texts, m.tryAll slot texts = texts.map fun t => (m.isMatch t, m.find t)) ∧
      ((m.walk text).next m).1 = m.find text ∧ (m.findAll text).head? = m.find text := by
  have hfirst : ((m.walk text).next m).1 = m.find text := (Matches.takes_walk h text).answer
  refine ⟨isMatch_eq h text, fun slot => ?_, fun slot texts => ?_, hfirst, ?_⟩
  · rw [isMatch_eq h]
    rfl
  · rw [tryAll_eq]
    exact List.map_congr_left fun t _ => by rw [isMatch_eq h]
  · rw [head?_findAll, hfirst]

/-- The pattern `(b)?c*`: it matches the empty text at the start of one text, and in another one
its group takes part. -/
theorem queries_agree_optional :
    ∃ m : Matcher, (Recipe.of "(b)?c*").compile = .ok m.compiled ∧
      m.find "bcc" = some ⟨⟨"bcc", 0, 3⟩, [some ⟨"bcc", 0, 3⟩, some ⟨"bcc", 0, 1⟩], []⟩ ∧
      m.isMatch "bcc" = (m.find "bcc").isSome ∧
      m.tryMatch "bcc" (m.find "a") = (m.isMatch "bcc", m.find "bcc") ∧
      m.tryAll none ["a", "bcc"] = ["a", "bcc"].map (fun t => (m.isMatch t, m.find t)) ∧
      ((m.walk "bcc").next m).1 = m.find "bcc" ∧ (m.findAll "bcc").head? = m.find "bcc" := by
  obtain ⟨c, hc⟩ : ∃ c, (Recipe.of "(b)?c*").compile = .ok c := exists_of_isOk (by decide +kernel)
  have hfind : ((Recipe.of "(b)?c*").compile.toOption.bind fun c =>
        (⟨c, []⟩ : Matcher).find "bcc") =
      some ⟨⟨"bcc", 0, 3⟩, [some ⟨"bcc", 0, 3⟩, some ⟨"bcc", 0, 1⟩], []⟩ := by
    decide +kernel
  rw [hc] at hfind
  obtain ⟨hmatch, htry, hall, hwalk, hhead⟩ := queries_agree (m := ⟨c, []⟩) hc "bcc"
  exact ⟨⟨c, []⟩, hc, hfind, hmatch, htry _, hall none _, hwalk, hhead⟩

end Matcher

end CaptureTypes
