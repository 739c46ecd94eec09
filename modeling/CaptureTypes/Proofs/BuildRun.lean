/-
# What a run of steps leaves behind

A step replaces the builder, makes it grow, or leaves it alone
(`builder_step`); only a write touches the files.  From the one step follows
the run: the builder held is the last one put in place, with every
declaration appended since then in order, and with the last path to the
runtime set since then.

A step that fails leaves everything as it was.  A file is written only
after its text was generated, so a failure of the generation is the same
whatever the files are and wherever the path leads.
-/
import CaptureTypes.Proofs.FileWrite
import CaptureTypes.Proofs.Isolation
import CaptureTypes.Workspace
import Mathlib.Data.List.Induction

namespace CaptureTypes

namespace BuildStep

/-- The declarations that a step appends. -/
def added : BuildStep → List Spec
  | .pattern s => [s]
  | .patterns ss => ss
  | _ => []

/-- The path to the runtime that a step sets. -/
def runtime? : BuildStep → Option String
  | .runtimePath path => some path
  | _ => none

/-- Steps that ask the builder for something. -/
inductive Asks : BuildStep → Prop
  | specs : Asks .specs
  | generate : Asks .generate
  | generateAll : Asks .generateAll
  | writeTo (path : String) : Asks (.writeTo path)

/-- Steps that may change files. -/
inductive Writes : BuildStep → Prop
  | writeTo (path : String) : Writes (.writeTo path)
  | write (path : String) (content : ByteArray) : Writes (.write path content)
  | makeFolder (path : String) : Writes (.makeFolder path)

end BuildStep

namespace Builder

/-- The builder with all that steps append, and with the last path that one of them sets. -/
def grown (b : Builder) (steps : List BuildStep) : Builder where
  specs := b.specs ++ steps.flatMap BuildStep.added
  runtime := (steps.filterMap BuildStep.runtime?).getLast?.getD b.runtime

theorem grown_nil (b : Builder) : b.grown [] = b := by
  simp [grown]

/-- Steps that append nothing and set no path leave the builder as it was. -/
theorem grown_idle (b : Builder) {s : BuildStep} (hadded : s.added = [])
    (hruntime : s.runtime? = none) : b.grown [s] = b := by
  simp [grown, hadded, hruntime]

theorem grown_pattern (b : Builder) (s : Spec) : b.grown [.pattern s] = b.pattern s := rfl

theorem grown_patterns (b : Builder) (ss : List Spec) : b.grown [.patterns ss] = b.patterns ss := by
  simp [grown, Builder.patterns, BuildStep.added, BuildStep.runtime?]

theorem grown_runtimePath (b : Builder) (path : String) :
    b.grown [.runtimePath path] = b.runtimePath path := by
  simp [grown, Builder.runtimePath, BuildStep.added, BuildStep.runtime?]

theorem grown_append (b : Builder) (before after : List BuildStep) :
    b.grown (before ++ after) = (b.grown before).grown after := by
  simp only [grown, List.flatMap_append, List.append_assoc, List.filterMap_append,
    List.getLast?_append, Builder.mk.injEq, true_and]
  cases (after.filterMap BuildStep.runtime?).getLast? with
  | none => rw [Option.none_or, Option.getD_none]
  | some path => rw [Option.some_or, Option.getD_some, Option.getD_some]

end Builder

namespace Workspace

variable {w : Workspace}

/-- The builder that a step puts in the place of the one held, if it succeeds in that. -/
def replacement? (w : Workspace) : BuildStep → Option Builder
  | .reset => some .new
  | .fromManifest text => (Builder.fromManifest text).toOption
  | .fromManifestFile path => (Builder.fromManifestFile w.files path).toOption
  | _ => none

/-- The workspace after steps. -/
def after (w : Workspace) (steps : List BuildStep) : Workspace :=
  steps.foldl (fun w s => (w.step s).2) w

theorem after_concat (steps : List BuildStep) (s : BuildStep) :
    w.after (steps ++ [s]) = ((w.after steps).step s).2 := by
  simp only [after, List.foldl_append, List.foldl_cons, List.foldl_nil]

/-- The answers of a run are those of its steps, each in the workspace that the steps before it
leave. -/
theorem getElem?_run (steps : List BuildStep) (i : Nat) :
    (w.run steps)[i]? = steps[i]?.map fun s => ((w.after (steps.take i)).step s).1 := by
  induction steps generalizing w i with
  | nil => rfl
  | cons s steps ih =>
      cases i with
      | zero => rfl
      | succ i =>
          simp only [run, List.getElem?_cons_succ, List.take_succ_cons]
          exact ih i

/-! ## One step -/

theorem replaceBuilder_snd (x : Except BuildError Builder) :
    (w.replaceBuilder x).2 = { w with builder := x.toOption.getD w.builder } := by
  cases x with
  | error e => rfl
  | ok b => rfl

theorem step_writeTo (path : String) :
    w.step (.writeTo path) =
      match (w.builder.writeTo w.files path).answer with
      | .ok fs => (⟨.ok .done, (w.builder.writeTo w.files path).events⟩, { w with files := fs })
      | .error e => (⟨.error e, (w.builder.writeTo w.files path).events⟩, w) := by
  rfl

theorem step_fromManifest (text : String) :
    w.step (.fromManifest text) = w.replaceBuilder (Builder.fromManifest text) := rfl

theorem step_fromManifestFile (path : String) :
    w.step (.fromManifestFile path)
      = w.replaceBuilder (Builder.fromManifestFile w.files path) := rfl

/-- A step puts another builder in place, or the one held grows by what the step adds. -/
theorem builder_step (s : BuildStep) :
    (w.step s).2.builder = (w.replacement? s).getD (w.builder.grown [s]) := by
  cases s with
  | reset => rfl
  | pattern s => exact (Builder.grown_pattern w.builder s).symm
  | patterns ss => exact (Builder.grown_patterns w.builder ss).symm
  | runtimePath path => exact (Builder.grown_runtimePath w.builder path).symm
  | fromManifest text =>
      rw [step_fromManifest, replaceBuilder_snd, Builder.grown_idle _ rfl rfl]
      rfl
  | fromManifestFile path =>
      rw [step_fromManifestFile, replaceBuilder_snd, Builder.grown_idle _ rfl rfl]
      rfl
  | writeTo path =>
      show (w.step (.writeTo path)).2.builder = w.builder.grown [.writeTo path]
      rw [step_writeTo, Builder.grown_idle _ rfl rfl]
      split
      · rfl
      · rfl
  | specs | generate | generateAll | read path | write path content | makeFolder path =>
      exact (Builder.grown_idle _ rfl rfl).symm

theorem builder_step_of_asks {s : BuildStep} (h : s.Asks) : (w.step s).2.builder = w.builder := by
  rw [builder_step]
  cases h with
  | specs | generate | generateAll | writeTo path => exact Builder.grown_idle _ rfl rfl

theorem files_step {s : BuildStep} (h : ¬ s.Writes) : (w.step s).2.files = w.files := by
  cases s with
  | writeTo path => exact absurd (.writeTo path) h
  | write path content => exact absurd (.write path content) h
  | makeFolder path => exact absurd (.makeFolder path) h
  | fromManifest text => rw [step_fromManifest, replaceBuilder_snd]
  | fromManifestFile path => rw [step_fromManifestFile, replaceBuilder_snd]
  | reset | pattern s | patterns ss | runtimePath path => rfl
  | specs | generate | generateAll | read path => rfl

theorem replaceBuilder_of_error {x : Except BuildError Builder} {e : BuildError}
    (h : (w.replaceBuilder x).1.answer = .error e) : (w.replaceBuilder x).2 = w := by
  cases x with
  | error e' => rfl
  | ok b => cases h

/-- A step that fails leaves the builder and the files as they were. -/
theorem step_of_error {s : BuildStep} {e : BuildError} (h : (w.step s).1.answer = .error e) :
    (w.step s).2 = w := by
  cases s with
  | fromManifest text => exact replaceBuilder_of_error h
  | fromManifestFile path => exact replaceBuilder_of_error h
  | writeTo path =>
      rw [step_writeTo] at h ⊢
      split at h
      · cases h
      · rfl
  | specs | generate | generateAll | read path => rfl
  | reset => cases h
  | pattern s => cases h
  | patterns ss => cases h
  | runtimePath path => cases h
  | write path content => cases h
  | makeFolder path => cases h

/-! ## Runs -/

/-- Where the builder of a run comes from: it was there at the start or the last of the steps
`before` put it in place, and none of the steps `since` replaced it. -/
structure IsLastReplacement (w : Workspace) (before since : List BuildStep) (base : Builder) :
    Prop where
  replaced : (before = [] ∧ base = w.builder) ∨
    ∃ front s, before = front ++ [s] ∧ (w.after front).replacement? s = some base
  kept : ∀ front s back, since = front ++ s :: back →
    (w.after (before ++ front)).replacement? s = none

theorem IsLastReplacement.concat {before since : List BuildStep} {base : Builder}
    (h : w.IsLastReplacement before since base) {s : BuildStep}
    (hs : (w.after (before ++ since)).replacement? s = none) :
    w.IsLastReplacement before (since ++ [s]) base where
  replaced := h.replaced
  kept := by
    intro front s' back heq
    rcases List.eq_nil_or_concat back with rfl | ⟨back, last, rfl⟩
    · obtain ⟨rfl, hlast⟩ := List.append_inj' heq rfl
      cases hlast
      exact hs
    · have hsplit : since ++ [s] = (front ++ s' :: back) ++ [last] := by simpa using heq
      obtain ⟨rfl, -⟩ := List.append_inj' hsplit rfl
      exact h.kept front s' back rfl

/-- **The builder after a run** is the last one put in place, grown by the steps since. -/
theorem exists_lastReplacement (steps : List BuildStep) :
    ∃ before since base, steps = before ++ since ∧ w.IsLastReplacement before since base ∧
      (w.after steps).builder = base.grown since := by
  induction steps using List.reverseRecOn with
  | nil =>
      refine ⟨[], [], w.builder, rfl, ⟨.inl ⟨rfl, rfl⟩, ?_⟩, w.builder.grown_nil.symm⟩
      intro front s back heq
      simp at heq
  | append_singleton steps s ih =>
      obtain ⟨before, since, base, rfl, hlast, hbuilder⟩ := ih
      rw [after_concat, builder_step]
      cases hs : (w.after (before ++ since)).replacement? s with
      | some b =>
          refine ⟨before ++ since ++ [s], [], b, (List.append_nil _).symm, ⟨.inr ?_, ?_⟩,
            b.grown_nil.symm⟩
          · exact ⟨before ++ since, s, rfl, hs⟩
          · intro front s' back heq
            simp at heq
      | none =>
          refine ⟨before, since ++ [s], base, List.append_assoc .., hlast.concat hs, ?_⟩
          rw [Option.getD_none, hbuilder, ← Builder.grown_append]

/-! ## Files -/

/-- A file is written only after its text was generated. -/
theorem writeTo_of_generate_error {b : Builder} {e : BuildError} (h : b.generate.answer = .error e)
    (files : Files) (path : String) :
    b.writeTo files path = ⟨.error e, b.generate.events⟩ := by
  simp only [Builder.writeTo, Logged.andThen, h, Logged.quiet, List.append_nil]

/-- What is written is what is generated, to the place where the path leads and nowhere else. -/
theorem step_writeTo_ok {path : String} {a : BuildAnswer}
    (h : (w.step (.writeTo path)).1.answer = .ok a) :
    ∃ text l, w.builder.generate.answer = .ok text ∧ w.files.target path = .ok (.named l false) ∧
      w.files.IsWritten (w.step (.writeTo path)).2.files l text.toUTF8 := by
  rw [step_writeTo] at h ⊢
  split at h
  · rename_i files hwrite
    simp only [Builder.writeTo, Logged.andThen] at hwrite
    cases htext : w.builder.generate.answer with
    | error e =>
        rw [htext] at hwrite
        cases hwrite
    | ok text =>
        rw [htext] at hwrite
        simp only at hwrite
        split at hwrite
        · cases hwrite
        · rename_i files' hfiles
          cases hwrite
          obtain ⟨l, htarget, hwritten⟩ := Files.isWritten_of_writeBytes hfiles
          exact ⟨text, l, rfl, htarget, hwritten⟩
  · cases h

theorem step_writeTo_of_error {path : String} {e : BuildError}
    (h : (w.builder.writeTo w.files path).answer = .error e) :
    (w.step (.writeTo path)).1.answer = .error e := by
  rw [step_writeTo, h]

theorem step_fromManifestFile_of_text {path text : String}
    (h : w.files.readBytes path = .ok text.toUTF8) :
    w.step (.fromManifestFile path) = w.step (.fromManifest text) := by
  rw [step_fromManifestFile, step_fromManifest, Builder.fromManifestFile,
    Files.readText_of_text h]

theorem step_fromManifestFile_of_error {path : String} {e : FileError}
    (h : w.files.readText path = .error e) :
    w.step (.fromManifestFile path) = (.quiet (.error (.file path e)), w) := by
  rw [step_fromManifestFile, Builder.fromManifestFile, h]
  rfl

/-- **Every run is accounted for.**  After any steps from a new builder, among any files, the
builder held is the last one that a step put in place, with all declarations appended since and
the last path set since.  Of a step in any workspace: what only asks the builder leaves it as it
was, only a write changes files, and a failure changes nothing.  A builder that is written puts
the text that it generates where the path leads, where it is read back, and changes nothing that
another path reads; if it generates none, neither the files nor the path matter.  A manifest file
is taken for its text, or refused if it cannot be read or is no text. -/
theorem run_accounted :
    (∀ (files : Files) (steps : List BuildStep),
      let w : Workspace := ⟨.new, files⟩
      (∀ i : Nat, (w.run steps)[i]? = steps[i]?.map fun s => ((w.after (steps.take i)).step s).1) ∧
      ∃ before since base, steps = before ++ since ∧ w.IsLastReplacement before since base ∧
        (w.after steps).builder = base.grown since) ∧
    ∀ w : Workspace,
      (∀ s : BuildStep, s.Asks → (w.step s).2.builder = w.builder) ∧
      (∀ s : BuildStep, ¬ s.Writes → (w.step s).2.files = w.files) ∧
      (∀ (s : BuildStep) (e : BuildError), (w.step s).1.answer = .error e → (w.step s).2 = w) ∧
      (∀ (path : String) (a : BuildAnswer), (w.step (.writeTo path)).1.answer = .ok a →
        let files := (w.step (.writeTo path)).2.files
        ∃ text l, w.builder.generate.answer = .ok text ∧
          w.files.target path = .ok (.named l false) ∧ w.files.IsWritten files l text.toUTF8 ∧
          files.readText path = .ok text ∧
          ∀ other, w.files.target other ≠ .ok (.named l false) → ∀ found,
            files.readBytes other = .ok found ↔ w.files.readBytes other = .ok found) ∧
      (∀ e, w.builder.generate.answer = .error e → ∀ (files : Files) (path : String),
        w.builder.writeTo files path = ⟨.error e, w.builder.generate.events⟩) ∧
      (∀ path text : String, w.files.readBytes path = .ok text.toUTF8 →
        w.step (.fromManifestFile path) = w.step (.fromManifest text)) ∧
      (∀ (path : String) (content : ByteArray), w.files.readBytes path = .ok content →
        (∀ text : String, content ≠ text.toUTF8) →
          w.step (.fromManifestFile path) = (.quiet (.error (.file path .notText)), w)) ∧
      (∀ (path : String) (e : FileError), w.files.readBytes path = .error e →
        w.step (.fromManifestFile path) = (.quiet (.error (.file path e)), w)) := by
  refine ⟨fun files steps => ⟨getElem?_run steps, exists_lastReplacement steps⟩, fun w => ?_⟩
  refine ⟨fun s => builder_step_of_asks, fun s => files_step, fun s e => step_of_error, ?_,
    fun e => writeTo_of_generate_error, fun path text => step_fromManifestFile_of_text, ?_, ?_⟩
  · intro path a h files
    obtain ⟨text, l, htext, htarget, hwritten⟩ := step_writeTo_ok h
    refine ⟨text, l, htext, htarget, hwritten, ?_, ?_⟩
    · exact Files.readText_of_text (hwritten.readBytes_here htarget)
    · exact fun other hother found => hwritten.readBytes_elsewhere hother found
  · intro path content h hno
    exact step_fromManifestFile_of_error (Files.readText_of_no_text h hno)
  · intro path e h
    exact step_fromManifestFile_of_error (Files.readText_of_error h)

/-- A declaration that is written, a path to the runtime that is none, and three manifest files: one
that holds a text, one that holds a byte that begins no character, and one that is not there. -/
theorem run_accounted_mixed :
    let declared := start.after [.pattern (.of "A" "a")]
    let broken := start.after [.runtimePath "a b"]
    let filed := start.after [.write "m.json" "[]".toUTF8, .write "b" ⟨#[0xFF]⟩]
    (declared.step .generate).2.builder = declared.builder ∧
    (declared.step .specs).2.files = declared.files ∧
    (∃ text, declared.builder.generate.answer = .ok text ∧
      (declared.step (.writeTo "a.rs")).2.files.readText "a.rs" = .ok text) ∧
    (∃ e, broken.builder.generate.answer = .error e ∧
      (broken.builder.writeTo .empty "x/b").answer = .error e ∧
      (broken.step (.writeTo "x/b")).2 = broken) ∧
    filed.step (.fromManifestFile "m.json") = filed.step (.fromManifest "[]") ∧
    filed.step (.fromManifestFile "b") = (.quiet (.error (.file "b" .notText)), filed) ∧
    filed.step (.fromManifestFile "c") = (.quiet (.error (.file "c" .notFound)), filed) := by
  intro declared broken filed
  obtain ⟨hasks, hfiles, -, hwritten, -⟩ := run_accounted.2 declared
  obtain ⟨-, -, hfailed, -, hunopened, -⟩ := run_accounted.2 broken
  obtain ⟨-, -, -, -, -, htext, hnotext, hunread⟩ := run_accounted.2 filed
  refine ⟨hasks _ .generate, hfiles _ nofun, ?_, ?_, htext _ _ rfl, hnotext _ _ rfl ?_,
    hunread _ _ rfl⟩
  · have hok : (declared.step (.writeTo "a.rs")).1.answer.isOk = true := by decide +kernel
    cases h : (declared.step (.writeTo "a.rs")).1.answer with
    | error e =>
        rw [h] at hok
        cases hok
    | ok a =>
        obtain ⟨text, l, hgenerate, -, -, hread, -⟩ := hwritten "a.rs" a h
        exact ⟨text, hgenerate, hread⟩
  · have hpath : Grammar.path? "a b" = none := by decide +kernel
    have hgenerate : broken.builder.generate.answer
        = .error (.generate (.invalidRuntimePath "a b")) :=
      Builder.generate_of_no_path hpath
    have hwrite := fun files path => congrArg Logged.answer (hunopened _ hgenerate files path)
    exact ⟨_, hgenerate, hwrite _ _, hfailed _ _ (step_writeTo_of_error (hwrite _ "x/b"))⟩
  · intro text htext
    have hnone : String.fromUTF8? ⟨#[0xFF]⟩ = none := by decide +kernel
    rw [Files.fromUTF8?_eq_some_iff.mpr htext] at hnone
    cases hnone

end Workspace

end CaptureTypes
