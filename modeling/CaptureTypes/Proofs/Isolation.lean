/-
# A builder keeps its declarations apart

Every declaration of a builder is generated on its own: what comes of it is
`Spec.outcome`, which knows the declaration and the path to the runtime and
nothing else.  The file is all or nothing.  If every declaration succeeds
it holds all their printings, and otherwise there is no file, but the
failures, each with the name and the error of its declaration.  A path to
the runtime that is none stops everything before any declaration is looked
at.
-/
import CaptureTypes.Builder
import CaptureTypes.Proofs.Accessor
import CaptureTypes.Proofs.Printing

namespace CaptureTypes

/-- What comes of a declaration with a path to the runtime. -/
def Spec.outcome (runtime : List PlainToken) (s : Spec) : Outcome :=
  match s.resolve with
  | .error e => .error e
  | .ok r => (s.emit r { Surroundings.standard with runtime := runtime }).answer

theorem Spec.answer_generateWith (s : Spec) (runtime : List PlainToken) :
    (s.generateWith { Surroundings.standard with runtime := runtime }).answer
      = s.outcome runtime := by
  unfold generateWith resolveLogged outcome
  cases s.resolve with
  | error e => rfl
  | ok r => rfl

/-- The tokens of a declaration that succeeds end with a block. -/
theorem Spec.endsWithBlock_of_outcome {s : Spec} {runtime ts : List PlainToken}
    (h : s.outcome runtime = .ok ts) : Token.EndsWithBlock ts := by
  unfold outcome emit at h
  split at h
  · cases h
  · split at h
    · cases h
    · cases h
      exact endsWithBlock_tokensWith _ _ _

namespace Builder

variable {b : Builder} {runtime : List PlainToken}

theorem exists_of_not_isOk {ε α : Type} {x : Except ε α} (h : x.isOk = false) :
    ∃ e, x = .error e := by
  cases x with
  | error e => exact ⟨e, rfl⟩
  | ok a => cases h

/-! ## One outcome for each declaration -/

theorem generateAll_of_path (h : Grammar.path? b.runtime = some runtime) :
    b.generateAll.answer = .ok (b.specs.map (Spec.outcome runtime)) := by
  have houtcomes : (fun s : Spec =>
      (s.generateWith { Surroundings.standard with runtime := runtime }).answer)
        = Spec.outcome runtime := funext fun s => s.answer_generateWith runtime
  simp only [generateAll, h, Logged.map, Logged.all, houtcomes]

theorem generateAll_of_no_path (h : Grammar.path? b.runtime = none) :
    b.generateAll.answer = .error (.generate (.invalidRuntimePath b.runtime)) := by
  simp only [generateAll, h, Logged.quiet]

/-! ## The file, or the failures -/

/-- The failure of a declaration with what came of it, if it failed. -/
def failure? : Spec × Outcome → Option DeclarationFailure
  | (s, .error e) => some ⟨s.typeName, e⟩
  | (_, .ok _) => none

theorem failures_eq_filterMap (results : List (Spec × Outcome)) :
    failures results = results.filterMap failure? := by
  induction results with
  | nil => rfl
  | cons result rest ih =>
      obtain ⟨s, outcome⟩ := result
      cases outcome with
      | error e => rw [failures, ih]; rfl
      | ok ts => rw [failures, ih]; rfl

theorem failures_eq_nil_iff {specs : List Spec} {outcomes : List Outcome}
    (h : specs.length = outcomes.length) :
    failures (specs.zip outcomes) = [] ↔ ∀ o ∈ outcomes, o.isOk = true := by
  induction specs generalizing outcomes with
  | nil => simp [List.eq_nil_of_length_eq_zero h.symm, failures]
  | cons s specs ih =>
      cases outcomes with
      | nil => cases h
      | cons o outcomes =>
          have hrest : failures (specs.zip outcomes) = [] ↔ ∀ o ∈ outcomes, o.isOk = true :=
            ih (Nat.succ.inj h)
          cases o with
          | error e => simp [failures, Except.isOk, Except.toBool]
          | ok ts => simpa [failures, Except.isOk, Except.toBool] using hrest

theorem successes_zip {specs : List Spec} {tss : List (List PlainToken)}
    (h : specs.length = tss.length) : successes (specs.zip (tss.map .ok)) = tss.flatten := by
  induction specs generalizing tss with
  | nil => rw [List.eq_nil_of_length_eq_zero h.symm]; rfl
  | cons s specs ih =>
      cases tss with
      | nil => cases h
      | cons ts tss =>
          rw [List.map_cons, List.zip_cons_cons, successes, ih (Nat.succ.inj h),
            List.flatten_cons]

/-- Outcomes that all succeed are those of some tokens. -/
theorem exists_map_ok {outcomes : List Outcome} (h : ∀ o ∈ outcomes, o.isOk = true) :
    ∃ tss : List (List PlainToken), outcomes = tss.map .ok := by
  induction outcomes with
  | nil => exact ⟨[], rfl⟩
  | cons o outcomes ih =>
      obtain ⟨ho, houtcomes⟩ := List.forall_mem_cons.mp h
      obtain ⟨tss, rfl⟩ := ih houtcomes
      cases o with
      | error e => cases ho
      | ok ts => exact ⟨ts :: tss, rfl⟩

theorem generate_of_outcomes {outcomes : List Outcome} (h : b.generateAll.answer = .ok outcomes) :
    b.generate.answer = (collect (b.specs.zip outcomes)).answer := by
  simp only [generate, Logged.andThen, h]

/-- If every declaration succeeds, the file holds their tokens one after the other. -/
theorem generate_of_all_ok {tss : List (List PlainToken)}
    (h : b.generateAll.answer = .ok (tss.map .ok)) (hlength : b.specs.length = tss.length) :
    b.generate.answer = .ok (sourceText tss.flatten) := by
  have hnone : failures (b.specs.zip (tss.map .ok)) = [] := by
    refine (failures_eq_nil_iff (by rw [hlength, List.length_map])).mpr fun o ho => ?_
    obtain ⟨ts, -, rfl⟩ := List.mem_map.mp ho
    rfl
  rw [generate_of_outcomes h]
  simp only [collect, hnone, List.isEmpty_nil, if_true, successes_zip hlength]

/-- If a declaration fails, there is no file. -/
theorem generate_of_failure {outcomes : List Outcome} (h : b.generateAll.answer = .ok outcomes)
    (hlength : b.specs.length = outcomes.length) (hfailed : ∃ o ∈ outcomes, o.isOk = false) :
    b.generate.answer
      = .error (.declarations ((b.specs.zip outcomes).filterMap failure?)) := by
  obtain ⟨o, ho, hfalse⟩ := hfailed
  have hsome : (failures (b.specs.zip outcomes)).isEmpty = false := by
    refine Bool.eq_false_iff.mpr fun hempty => ?_
    have hall := (failures_eq_nil_iff hlength).mp (List.isEmpty_iff.mp hempty)
    rw [hall o ho] at hfalse
    cases hfalse
  rw [generate_of_outcomes h, ← failures_eq_filterMap]
  simp only [collect, hsome, Bool.false_eq_true, if_false]

theorem generate_of_no_path (h : Grammar.path? b.runtime = none) :
    b.generate.answer = .error (.generate (.invalidRuntimePath b.runtime)) := by
  simp only [generate, Logged.andThen, generateAll_of_no_path h, Logged.quiet]

/-- **All or nothing, and each on its own.**  With a path to the runtime, a declaration has the
same outcome in every builder, and the outcomes of declarations come in their order, however
many others stand before and after them.  There is a file iff all outcomes are good; then it is
the header and the printed declarations in order, with single blanks between them.  Otherwise
the answer is the list of all failures, each under the name of its declaration with the error
of its outcome.  Without a path to the runtime nothing is generated. -/
theorem generate_isolated (b : Builder) :
    (∀ runtime, Grammar.path? b.runtime = some runtime →
      let outcomes := b.specs.map (Spec.outcome runtime)
      b.generateAll.answer = .ok outcomes ∧
      (∀ more : List Spec, ∃ others,
        (Builder.mk more b.runtime).generateAll.answer = .ok others ∧
        (b.patterns more).generateAll.answer = .ok (outcomes ++ others)) ∧
      ((∃ source, b.generate.answer = .ok source) ↔ ∀ o ∈ outcomes, o.isOk = true) ∧
      (∀ tss : List (List PlainToken), outcomes = tss.map .ok →
        b.generate.answer = .ok (header ++ " ".intercalate (tss.map Token.render) ++ "\n")) ∧
      ((∃ o ∈ outcomes, o.isOk = false) →
        b.generate.answer
          = .error (.declarations ((b.specs.zip outcomes).filterMap failure?)))) ∧
    (Grammar.path? b.runtime = none →
      b.generateAll.answer = .error (.generate (.invalidRuntimePath b.runtime)) ∧
      b.generate.answer = .error (.generate (.invalidRuntimePath b.runtime))) := by
  refine ⟨fun runtime hpath => ?_,
    fun hpath => ⟨generateAll_of_no_path hpath, generate_of_no_path hpath⟩⟩
  intro outcomes
  have hall : b.generateAll.answer = .ok outcomes := generateAll_of_path hpath
  have hlength : b.specs.length = outcomes.length := (List.length_map _).symm
  have hsource : ∀ tss : List (List PlainToken), outcomes = tss.map .ok →
      b.generate.answer = .ok (header ++ " ".intercalate (tss.map Token.render) ++ "\n") := by
    intro tss htss
    have hblocks : ∀ ts ∈ tss, Token.EndsWithBlock ts := by
      intro ts hts
      have hmem : Except.ok ts ∈ outcomes := htss ▸ List.mem_map_of_mem hts
      obtain ⟨s, -, hs⟩ := List.mem_map.mp hmem
      exact Spec.endsWithBlock_of_outcome hs
    rw [generate_of_all_ok (htss ▸ hall) (by rw [hlength, htss, List.length_map]), sourceText,
      Token.render_flatten hblocks]
  have hfailed := generate_of_failure hall hlength
  refine ⟨hall, fun more => ⟨more.map (Spec.outcome runtime), ?_, ?_⟩, ⟨?_, ?_⟩, hsource, hfailed⟩
  · exact generateAll_of_path hpath
  · rw [generateAll_of_path (b := b.patterns more) hpath, patterns, List.map_append]
  · rintro ⟨source, hok⟩ o ho
    cases hgood : o.isOk with
    | true => rfl
    | false =>
        rw [hfailed ⟨o, ho, hgood⟩] at hok
        cases hok
  · intro hgood
    obtain ⟨tss, htss⟩ := exists_map_ok hgood
    exact ⟨_, hsource tss htss⟩

/-- Of three declarations the second has no closing parenthesis. -/
theorem generate_isolated_unclosed :
    ∃ e, Grammar.path? "::typed_regex" = some Surroundings.standard.runtime ∧
      (Builder.mk [.of "A" "a", .of "Broken" "(", .of "C" "(c)"] "::typed_regex").generate.answer
        = .error (.declarations [⟨"Broken", e⟩]) := by
  let runtime := Surroundings.standard.runtime
  have hpath : Grammar.path? "::typed_regex" = some runtime := by decide +kernel
  obtain ⟨ts, hts⟩ := exists_of_isOk (x := (Spec.of "A" "a").outcome runtime) (by decide +kernel)
  obtain ⟨us, hus⟩ := exists_of_isOk (x := (Spec.of "C" "(c)").outcome runtime) (by decide +kernel)
  obtain ⟨e, he⟩ := exists_of_not_isOk (x := (Spec.of "Broken" "(").outcome runtime)
    (by decide +kernel)
  obtain ⟨-, -, -, -, hfailed⟩ := (generate_isolated
    (.mk [.of "A" "a", .of "Broken" "(", .of "C" "(c)"] "::typed_regex")).1 runtime hpath
  refine ⟨e, hpath, ?_⟩
  rw [hfailed ⟨_, List.mem_cons_of_mem _ List.mem_cons_self, by rw [he]; rfl⟩]
  simp only [List.map_cons, List.map_nil, hts, he, hus]
  rfl

end Builder

end CaptureTypes
