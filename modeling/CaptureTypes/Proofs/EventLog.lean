/-
# What the log tells of a run

The log is determined by the declarations and by what came of them
(`Spec.trace`): a declaration whose pattern does not compile leaves nothing,
one that compiles leaves a record of its groups, and one that is generated
another, right after it, with the same number.  The two numbers come from
different lists, the groups but the first and the accessors, and agree
because the check of accessors drops no group (`length_accessors`).

All declarations are generated before anything is reported, so the warnings
come after all traces.  Each declaration is emitted or fails, one or the
other, so the log accounts for all of them (`count_traces`).
-/
import CaptureTypes.Proofs.BuildRun

namespace CaptureTypes

/-- An event as it is recorded. -/
structure Record where
  level : Level
  message : String
  fields : List (String × FieldValue)
deriving DecidableEq, Repr

/-- The record of an event. -/
def Event.record (e : Event) : Record := ⟨e.level, e.message, e.fields⟩

/-- The warning that tells of a failure. -/
def DeclarationFailure.record (f : DeclarationFailure) : Record :=
  ⟨.warning, "declaration failed",
    [("type_name", .text f.typeName), ("error", .text f.error.message)]⟩

namespace Spec

/-- The record of a pattern with a number of groups. -/
def resolvedRecord (s : Spec) (groups : Nat) : Record :=
  ⟨.debug, "resolved capture groups",
    [("type_name", .text s.typeName), ("groups", .number groups)]⟩

/-- The record of a matcher type with a number of accessors. -/
def emittedRecord (s : Spec) (accessors : Nat) : Record :=
  ⟨.debug, "emitted matcher type",
    [("type_name", .text s.typeName), ("accessors", .number accessors)]⟩

/-- What a declaration leaves in the log, given what comes of it; group 0 is not counted. -/
def trace (s : Spec) (outcome : Outcome) : List Record :=
  match s.recipe.compile with
  | .error _ => []
  | .ok c =>
    s.resolvedRecord c.groups.tail.length ::
      if outcome.isOk then [s.emittedRecord c.groups.tail.length] else []

/-! ## One declaration -/

theorem length_accessorGroups (c : Pattern.Compiled) :
    (Resolved.mk c (Group.listFrom 0 c.groups)).accessorGroups.length = c.groups.tail.length := by
  rw [Resolved.accessorGroups, List.length_drop, Group.length_listFrom, List.length_tail]

/-- No group is dropped where the names are checked. -/
theorem length_accessors {s : Spec} {r : Resolved} {names : Names} (h : s.namesWith r = .ok names) :
    names.accessors.length = r.accessorGroups.length := by
  obtain ⟨-, -, haccessors⟩ := namesWith_ok_iff.mp h
  obtain ⟨-, hgroups, -⟩ := Emission.accessorsAfter_ok haccessors
  rw [← hgroups, List.length_map]

/-- A declaration is told to be emitted iff it is, with as many accessors as it has groups. -/
theorem events_emit (s : Spec) (r : Resolved) (around : Surroundings) :
    (s.emit r around).events
      = if (s.emit r around).answer.isOk then [.emitted s.typeName r.accessorGroups.length]
        else [] := by
  unfold emit
  split
  · rfl
  · rename_i names hnames
    rw [length_accessors hnames]
    rfl

/-- **A declaration leaves its trace.** -/
theorem records_generateWith (s : Spec) (runtime : List PlainToken) :
    (s.generateWith { Surroundings.standard with runtime := runtime }).events.map Event.record
      = s.trace (s.outcome runtime) := by
  unfold generateWith resolveLogged trace outcome resolve
  cases s.recipe.compile with
  | error e => rfl
  | ok c =>
      simp only [Logged.andThen, events_emit, length_accessorGroups]
      split
      · rfl
      · rfl

/-- Nothing comes of a pattern that does not compile. -/
theorem compile_isOk_of_outcome {s : Spec} {runtime ts : List PlainToken}
    (h : s.outcome runtime = .ok ts) : ∃ c, s.recipe.compile = .ok c := by
  unfold outcome resolve at h
  cases hcompile : s.recipe.compile with
  | error e =>
      rw [hcompile] at h
      cases h
  | ok c => exact ⟨c, rfl⟩

theorem level_of_mem_trace {s : Spec} {o : Outcome} {r : Record} (h : r ∈ s.trace o) :
    r.level = .debug ∧ r.message ≠ "declaration failed" := by
  unfold trace at h
  split at h
  · cases h
  · rcases List.mem_cons.mp h with rfl | h
    · exact ⟨rfl, (by decide : "resolved capture groups" ≠ "declaration failed")⟩
    · split at h
      · obtain rfl := List.mem_singleton.mp h
        exact ⟨rfl, (by decide : "emitted matcher type" ≠ "declaration failed")⟩
      · cases h

end Spec

/-- How many records say something. -/
def Record.count (message : String) (log : List Record) : Nat :=
  log.countP fun r => r.message == message

namespace Builder

variable {b : Builder} {runtime : List PlainToken}

/-- The failures that an answer lists. -/
def listed : Except BuildError String → List DeclarationFailure
  | .error (.declarations failures) => failures
  | _ => []

/-- What a declaration leaves in the log, with a path to the runtime. -/
def traceOf (runtime : List PlainToken) (s : Spec) : List Record := s.trace (s.outcome runtime)

/-- The failure of a declaration with a path to the runtime, if it fails. -/
def failureOf? (runtime : List PlainToken) (s : Spec) : Option DeclarationFailure :=
  failure? (s, s.outcome runtime)

/-! ## All declarations -/

theorem records_generateAll (h : Grammar.path? b.runtime = some runtime) :
    b.generateAll.events.map Event.record = b.specs.flatMap (traceOf runtime) := by
  simp only [generateAll, h, Logged.map, Logged.all, List.map_flatMap, Spec.records_generateWith]
  rfl

theorem failures_of_path (specs : List Spec) :
    failures (specs.zip (specs.map (Spec.outcome runtime)))
      = specs.filterMap (failureOf? runtime) := by
  rw [failures_eq_filterMap, ← List.map_prod_left_eq_zip, List.filterMap_map]
  rfl

/-- The warnings come after the traces, one for each failure. -/
theorem records_generate (h : Grammar.path? b.runtime = some runtime) :
    b.generate.events.map Event.record
      = b.specs.flatMap (traceOf runtime) ++
        (b.specs.filterMap (failureOf? runtime)).map DeclarationFailure.record := by
  have hall : b.generateAll.answer = .ok (b.specs.map (Spec.outcome runtime)) :=
    generateAll_of_path h
  simp only [generate, Logged.andThen, hall, List.map_append, records_generateAll h, collect,
    failures_of_path, List.map_map]
  rfl

theorem listed_generate (h : Grammar.path? b.runtime = some runtime) :
    listed b.generate.answer = b.specs.filterMap (failureOf? runtime) := by
  rw [generate_of_outcomes (generateAll_of_path h), collect, failures_of_path]
  cases b.specs.filterMap (failureOf? runtime) with
  | nil => rfl
  | cons f fs => rfl

/-- **Each declaration is emitted or fails**, and is accounted for once. -/
theorem count_traces (runtime : List PlainToken) (specs : List Spec) :
    Record.count "emitted matcher type" (specs.flatMap (traceOf runtime)) +
      (specs.filterMap (failureOf? runtime)).length = specs.length := by
  induction specs with
  | nil => rfl
  | cons s specs ih =>
      have hcount : Record.count "emitted matcher type" ((s :: specs).flatMap (traceOf runtime))
          = Record.count "emitted matcher type" (traceOf runtime s) +
            Record.count "emitted matcher type" (specs.flatMap (traceOf runtime)) := by
        rw [List.flatMap_cons, Record.count, List.countP_append]
        rfl
      rw [hcount]
      cases houtcome : s.outcome runtime with
      | error e =>
          have hfailure : failureOf? runtime s = some ⟨s.typeName, e⟩ := by
            rw [failureOf?, houtcome]
            rfl
          have htrace : Record.count "emitted matcher type" (traceOf runtime s) = 0 := by
            rw [traceOf, houtcome, Spec.trace]
            cases s.recipe.compile with
            | error e => rfl
            | ok c => rfl
          rw [List.filterMap_cons_some hfailure, htrace, List.length_cons, List.length_cons]
          omega
      | ok ts =>
          have hfailure : failureOf? runtime s = none := by
            rw [failureOf?, houtcome]
            rfl
          have htrace : Record.count "emitted matcher type" (traceOf runtime s) = 1 := by
            obtain ⟨c, hcompile⟩ := Spec.compile_isOk_of_outcome houtcome
            rw [traceOf, houtcome, Spec.trace, hcompile]
            rfl
          rw [List.filterMap_cons_none hfailure, htrace, List.length_cons]
          omega

theorem count_failed (runtime : List PlainToken) (specs : List Spec)
    (failed : List DeclarationFailure) :
    Record.count "declaration failed"
      (specs.flatMap (traceOf runtime) ++ failed.map DeclarationFailure.record) = failed.length := by
  have htraces : (specs.flatMap (traceOf runtime)).countP (fun r => r.message == "declaration failed")
      = 0 := by
    refine List.countP_eq_zero.mpr fun r hr heq => ?_
    obtain ⟨s, -, hr⟩ := List.mem_flatMap.mp hr
    exact (Spec.level_of_mem_trace hr).2 (beq_iff_eq.mp heq)
  rw [Record.count, List.countP_append, htraces, Nat.zero_add, List.countP_map]
  exact List.countP_eq_length.mpr fun _ _ => rfl

/-- The warnings are those of the failures. -/
theorem filter_warnings (runtime : List PlainToken) (specs : List Spec)
    (failed : List DeclarationFailure) :
    (specs.flatMap (traceOf runtime) ++ failed.map DeclarationFailure.record).filter
        (fun r => r.level = .warning)
      = failed.map DeclarationFailure.record := by
  have htraces : (specs.flatMap (traceOf runtime)).filter (fun r => r.level = .warning) = [] := by
    refine List.filter_eq_nil_iff.mpr fun r hr hwarning => ?_
    obtain ⟨s, -, hr⟩ := List.mem_flatMap.mp hr
    rw [(Spec.level_of_mem_trace hr).1] at hwarning
    cases of_decide_eq_true hwarning
  rw [List.filter_append, htraces, List.nil_append]
  refine List.filter_eq_self.mpr fun r hr => ?_
  obtain ⟨f, -, rfl⟩ := List.mem_map.mp hr
  rfl

theorem count_emitted (runtime : List PlainToken) (specs : List Spec) :
    Record.count "emitted matcher type" (specs.flatMap (traceOf runtime) ++
        (specs.filterMap (failureOf? runtime)).map DeclarationFailure.record)
      + (specs.filterMap (failureOf? runtime)).length = specs.length := by
  have hwarnings : ∀ failed : List DeclarationFailure,
      (failed.map DeclarationFailure.record).countP (fun r => r.message == "emitted matcher type")
        = 0 := by
    intro failed
    refine List.countP_eq_zero.mpr fun r hr => ?_
    obtain ⟨f, -, rfl⟩ := List.mem_map.mp hr
    exact (by decide : ¬ ("declaration failed" == "emitted matcher type") = true)
  rw [Record.count, List.countP_append, hwarnings, Nat.add_zero]
  exact count_traces runtime specs

/-! ## The file -/

theorem writeTo_of_text {text : String} (h : b.generate.answer = .ok text) (files : Files)
    (path : String) :
    b.writeTo files path =
      match files.writeText path text with
      | .error e => ⟨.error (.file path e), b.generate.events⟩
      | .ok files' => ⟨.ok files', b.generate.events ++ [.wrote path b.specs.length]⟩ := by
  simp only [writeTo, Logged.andThen, h]
  cases files.writeText path text with
  | error e => simp only [Logged.quiet, List.append_nil]
  | ok files' => rfl

/-- A file that is written is the last thing recorded. -/
theorem events_writeTo (b : Builder) (files : Files) (path : String) :
    (b.writeTo files path).events
      = b.generate.events ++
        if (b.writeTo files path).answer.isOk then [.wrote path b.specs.length] else [] := by
  cases htext : b.generate.answer with
  | error e =>
      rw [Workspace.writeTo_of_generate_error htext]
      exact (List.append_nil _).symm
  | ok text =>
      rw [writeTo_of_text htext]
      cases files.writeText path text with
      | error e => exact (List.append_nil _).symm
      | ok files' => rfl

theorem answer_writeTo_eq_ok_iff {files files' : Files} {path : String} :
    (b.writeTo files path).answer = .ok files' ↔
      ∃ text, b.generate.answer = .ok text ∧ files.writeText path text = .ok files' := by
  cases htext : b.generate.answer with
  | error e =>
      rw [Workspace.writeTo_of_generate_error htext]
      simp
  | ok text =>
      rw [writeTo_of_text htext]
      cases hwrite : files.writeText path text with
      | error e => simp [hwrite]
      | ok files'' => simp [hwrite]

/-- **The log accounts for every declaration.**  Without a path to the runtime nothing is recorded.
With one, the declarations leave their traces in order, and then every failure its warning, in
order, under the name and with the words of the error that is reported for it; so every declaration
is either emitted or told to have failed, and the warnings are those of the failures that the answer
lists.  Generating without a file leaves the traces alone.  Writing the file adds one record, with
the number of declarations, iff the file is written. -/
theorem generate_recorded (b : Builder) :
    (Grammar.path? b.runtime = none →
      b.generateAll.events = [] ∧ b.generate.events = [] ∧
      ∀ (files : Files) (path : String), (b.writeTo files path).events = []) ∧
    (∀ runtime, Grammar.path? b.runtime = some runtime →
      let outcomes := b.specs.map (Spec.outcome runtime)
      let traces := b.specs.flatMap fun s => s.trace (s.outcome runtime)
      let failed := (b.specs.zip outcomes).filterMap failure?
      let log := b.generate.events.map Event.record
      b.generateAll.answer = .ok outcomes ∧
      b.generateAll.events.map Event.record = traces ∧
      log = traces ++ failed.map DeclarationFailure.record ∧
      Record.count "emitted matcher type" log + Record.count "declaration failed" log
        = b.specs.length ∧
      listed b.generate.answer = failed ∧
      log.filter (fun r => r.level = .warning) = failed.map DeclarationFailure.record) ∧
    ∀ (files : Files) (path : String),
      (b.writeTo files path).events.map Event.record
        = b.generate.events.map Event.record ++
          (if (b.writeTo files path).answer.isOk then
            [⟨.debug, "wrote generated matchers",
              [("path", .text path), ("patterns", .number b.specs.length)]⟩]
          else []) ∧
      ∀ files', (b.writeTo files path).answer = .ok files' ↔
        ∃ text, b.generate.answer = .ok text ∧ files.writeText path text = .ok files' := by
  refine ⟨fun hpath => ?_, fun runtime hpath => ?_, fun files path => ⟨?_, fun files' => ?_⟩⟩
  · have hall : b.generateAll.events = [] := by
      simp only [generateAll, hpath, Logged.quiet]
    have hgenerate : b.generate.events = [] := by
      simp only [generate, Logged.andThen, generateAll_of_no_path hpath, hall, Logged.quiet,
        List.append_nil]
    refine ⟨hall, hgenerate, fun files path => ?_⟩
    rw [Workspace.writeTo_of_generate_error (generate_of_no_path hpath)]
    exact hgenerate
  · intro outcomes traces failed log
    have hfailed : failed = b.specs.filterMap (failureOf? runtime) := by
      rw [← failures_of_path, failures_eq_filterMap]
    have hlog : log = traces ++ failed.map DeclarationFailure.record := by
      rw [hfailed]
      exact records_generate hpath
    refine ⟨generateAll_of_path hpath, records_generateAll hpath, hlog, ?_, ?_, ?_⟩
    · rw [hlog]
      have hemitted := count_emitted runtime b.specs
      have hwarned := count_failed runtime b.specs failed
      rw [← hfailed] at hemitted
      exact (congrArg _ hwarned).trans hemitted
    · rw [hfailed]
      exact listed_generate hpath
    · rw [hlog]
      exact filter_warnings runtime b.specs failed
  · rw [events_writeTo, List.map_append]
    split
    · rfl
    · rfl
  · exact answer_writeTo_eq_ok_iff

/-- Of three declarations the second has no closing parenthesis, and the third a group that is named
by a keyword; then the same without a path to the runtime. -/
theorem generate_recorded_mixed :
    let specs : List Spec := [.of "A" "(a)", .of "Broken" "(", .of "C" "(?<self>c)"]
    let runtime := Surroundings.standard.runtime
    Grammar.path? "::typed_regex" = some runtime ∧
    ((Builder.mk specs "::typed_regex").generate.events.map fun e => e.message)
      = ["resolved capture groups", "emitted matcher type", "resolved capture groups",
          "declaration failed", "declaration failed"] ∧
    Grammar.path? "a b" = none ∧ (Builder.mk specs "a b").generate.events = [] := by
  intro specs runtime
  have hpath : Grammar.path? "::typed_regex" = some runtime := by decide +kernel
  have hnone : Grammar.path? "a b" = none := by decide +kernel
  obtain ⟨-, -, hlog, -⟩ := (generate_recorded (.mk specs "::typed_regex")).2.1 runtime hpath
  refine ⟨hpath, ?_, hnone, ((generate_recorded (.mk specs "a b")).1 hnone).2.1⟩
  have hmessages := congrArg (List.map Record.message) hlog
  rw [List.map_map] at hmessages
  refine hmessages.trans ?_
  decide +kernel

end Builder

end CaptureTypes
