/-
# What options remember of their steps

Options are changed by steps of any number.  A step either resets all
toggles (`resets?`), or writes one of them (`writes?`), or leaves them as
they are; so what a toggle holds is told by the last reset and by what was
written to the toggle since then (`get_after`).  A read text is a reset too:
what it does not say is standard after it, whatever was there before.

One step is settled in `step_of_resets?` and `get_step`.  A run without a
reset is an induction on its steps (`get_after_quiet`), and any other run is
one from its last reset.
-/
import CaptureTypes.OptionSession
import CaptureTypes.Proofs.OptionDocument
import CaptureTypes.Proofs.OptionWords
import CaptureTypes.Proofs.Startup
import CaptureTypes.Proofs.UnknownName
import Mathlib.Data.List.Induction

namespace CaptureTypes

open Json (Tree Writes)

/-! ## Single steps -/

namespace OptionStep

/-- The options that a step sets as a whole, if it does: a text is read into standard options, and
only if it can be read. -/
def resets? : OptionStep → Option Options
  | reset => some .standard
  | read text => (Options.form.parse text).toOption
  | _ => none

/-- The value that a step writes to a toggle, if it does. -/
def writes? (t : Toggle) : OptionStep → Option Bool
  | write u value => if u = t then some value else none
  | writeNamed name value => if name = t.name then some value else none
  | _ => none

end OptionStep

namespace Options

variable {o base start : Options} {s : OptionStep} {steps since : List OptionStep}

theorem step_read_error {text : String} {fault : Json.Fault} (h : form.parse text = .error fault) :
    o.step (.read text) = (.unreadable fault, o) := by
  rw [step, h]

/-- A text is read as it is parsed, whatever the options before. -/
theorem step_read_eq_done_iff {text : String} :
    o.step (.read text) = (.done, base) ↔ form.parse text = .ok base := by
  rw [step]
  cases form.parse text with
  | ok p => simp
  | error fault => simp

theorem step_writeNamed_name (t : Toggle) (value : Bool) :
    o.step (.writeNamed t.name value) = (.truth true, o.set t value) := by
  rw [step, setNamed?, t.named?_name, Option.map_some]

theorem step_writeNamed_unknown {name : String} (h : name ∉ Toggle.names) (value : Bool) :
    o.step (.writeNamed name value) = (.truth false, o) := by
  rw [step, setNamed?_eq_none h]

/-- A reset leaves nothing of the options before. -/
theorem step_of_resets? (h : s.resets? = some base) : (o.step s).2 = base := by
  cases s with
  | reset => exact Option.some.inj h
  | read text =>
      cases hparse : form.parse text with
      | ok p =>
          rw [OptionStep.resets?, hparse] at h
          rw [step_read_eq_done_iff.mpr hparse]
          exact Option.some.inj h
      | error fault =>
          rw [OptionStep.resets?, hparse] at h
          cases h
  | write | writeNamed | matchWith | names | isStandard => cases h

/-- A step that resets nothing changes the toggle that it writes, and no other. -/
theorem get_step (h : s.resets? = none) (t : Toggle) :
    (o.step s).2.get t = (s.writes? t).getD (o.get t) := by
  cases s with
  | reset => cases h
  | write u value =>
      rw [OptionStep.writes?, step, get_set]
      by_cases hu : t = u
      · rw [if_pos hu, if_pos hu.symm, Option.getD_some]
      · rw [if_neg hu, if_neg (Ne.symm hu), Option.getD_none]
  | writeNamed name value =>
      rw [OptionStep.writes?]
      by_cases hknown : name ∈ Toggle.names
      · obtain ⟨u, -, rfl⟩ := List.mem_map.mp hknown
        rw [step_writeNamed_name, get_set]
        by_cases hu : t = u
        · rw [if_pos hu, if_pos (congrArg Toggle.name hu.symm), Option.getD_some]
        · rw [if_neg hu, if_neg fun hname => hu (Toggle.name_inj hname.symm), Option.getD_none]
      · have hname : name ≠ t.name := (ne_of_mem_of_not_mem t.name_mem_names hknown).symm
        rw [step_writeNamed_unknown hknown, if_neg hname, Option.getD_none]
  | read text =>
      cases hparse : form.parse text with
      | ok p =>
          rw [OptionStep.resets?, hparse] at h
          cases h
      | error fault =>
          rw [step_read_error hparse]
          rfl
  | matchWith pattern text =>
      rw [step]
      cases o.matchesWith pattern text with
      | ok b => rfl
      | error e => rfl
  | names | isStandard => rfl

/-! ## Runs -/

/-- The options after steps. -/
def after (o : Options) (steps : List OptionStep) : Options :=
  steps.foldl (fun o s => (o.step s).2) o

/-- A run answers with every step taken where the ones before it have led. -/
theorem getElem?_run (o : Options) (steps : List OptionStep) (i : Nat) :
    (o.run steps)[i]? = steps[i]?.map (o.after (steps.take i)).step := by
  induction steps generalizing o i with
  | nil => rfl
  | cons s steps ih =>
      cases i with
      | zero => rfl
      | succ i => exact ih (o.step s).2 i

/-- Without a reset every toggle has what was written to it last. -/
theorem get_after_quiet (h : ∀ s ∈ steps, s.resets? = none) (o : Options) (t : Toggle) :
    (o.after steps).get t = (steps.filterMap (·.writes? t)).getLast?.getD (o.get t) := by
  induction steps generalizing o with
  | nil => rfl
  | cons s steps ih =>
      obtain ⟨hs, hsteps⟩ := List.forall_mem_cons.mp h
      show ((o.step s).2.after steps).get t = _
      rw [ih hsteps, get_step hs]
      cases hwrite : s.writes? t with
      | none => rw [List.filterMap_cons_none hwrite, Option.getD_none]
      | some value =>
          rw [List.filterMap_cons_some hwrite, List.getLast?_cons, Option.getD_some]
          rfl

/-- Steps seen from their last reset: the options that it set, and the steps since. Before the
first reset these are the options at the start, and all steps. -/
structure LastReset (start : Options) (steps : List OptionStep) (base : Options)
    (since : List OptionStep) : Prop where
  quiet : ∀ s ∈ since, s.resets? = none
  split : steps = since ∧ base = start ∨
    ∃ before s, steps = before ++ s :: since ∧ s.resets? = some base

theorem exists_lastReset (start : Options) (steps : List OptionStep) :
    ∃ base since, LastReset start steps base since := by
  induction steps using List.reverseRecOn with
  | nil => exact ⟨start, [], nofun, .inl ⟨rfl, rfl⟩⟩
  | append_singleton steps s ih =>
      cases hs : s.resets? with
      | some base => exact ⟨base, [], nofun, .inr ⟨steps, s, rfl, hs⟩⟩
      | none =>
          obtain ⟨base, since, hquiet, hsplit⟩ := ih
          refine ⟨base, since ++ [s], ?_, ?_⟩
          · intro s' hs'
            rcases List.mem_append.mp hs' with hs' | hs'
            · exact hquiet s' hs'
            · rwa [List.mem_singleton.mp hs']
          · rcases hsplit with ⟨rfl, hbase⟩ | ⟨before, r, rfl, hr⟩
            · exact .inl ⟨rfl, hbase⟩
            · exact .inr ⟨before, r, by simp, hr⟩

/-- A run is one from its last reset. -/
theorem LastReset.after_eq (h : LastReset start steps base since) :
    start.after steps = base.after since := by
  rcases h.split with ⟨rfl, rfl⟩ | ⟨before, s, rfl, hs⟩
  · rfl
  · rw [after, List.foldl_append, List.foldl_cons, step_of_resets? hs]
    rfl

/-- **A toggle holds what was written to it last since the last reset**, or what that reset set. -/
theorem get_after (h : LastReset start steps base since) (t : Toggle) :
    (start.after steps).get t = (since.filterMap (·.writes? t)).getLast?.getD (base.get t) := by
  rw [h.after_eq, get_after_quiet h.quiet]

/-- **What is remembered of any run of steps.**  Every answer of a run is that of its step where
the steps before it have led from the standard options.  What a toggle holds there is the last
value that was written to it since the last reset, and without one what the reset set; a text that
can be read is a reset, to what its document says of each toggle and to the standard value of any
other.  The write by name reaches every toggle; with a name that no toggle has, and with a text
that cannot be read, nothing is changed.  And wherever the steps have led, what the options are
written as is read back, they are told by their changed toggles in order, and a configured recipe
has just them. -/
theorem run_remembered :
    (∀ (steps : List OptionStep) (i : Nat),
      (standard.run steps)[i]? = steps[i]?.map (standard.after (steps.take i)).step) ∧
    (∀ steps, ∃ base since, LastReset standard steps base since) ∧
    (∀ {steps since : List OptionStep} {base : Options}, LastReset standard steps base since →
      ∀ t, (standard.after steps).get t
        = (since.filterMap (·.writes? t)).getLast?.getD (base.get t)) ∧
    (∀ {doc : Tree} {text : String}, Writes doc text → ∀ o p : Options,
      (o.step (.read text) = (.done, p) ↔ Says doc p)) ∧
    (∀ (o : Options) (t : Toggle) (value : Bool),
      o.step (.writeNamed t.name value) = (.truth true, o.set t value)) ∧
    (∀ {name : String}, name ∉ Toggle.names → ∀ (o : Options) (value : Bool),
      o.step (.writeNamed name value) = (.truth false, o)) ∧
    (∀ {text : String} {fault : Json.Fault}, form.parse text = .error fault → ∀ o : Options,
      o.step (.read text) = (.unreadable fault, o)) ∧
    ∀ steps : List OptionStep,
      let o := standard.after steps
      form.parse o.toJson.toText = .ok o ∧
      (∃ toggles : List Toggle, toggles.Sublist Toggle.all ∧
        (∀ t, t ∈ toggles ↔ o.get t ≠ t.standard) ∧
        o.describeAll = if toggles = [] then "none" else
          " | ".intercalate (toggles.map fun t => if o.get t then t.name else "!" ++ t.name)) ∧
      ∀ recipe : Pattern.Recipe, recipe.configure o = ⟨recipe.pattern, o⟩ := by
  refine ⟨getElem?_run standard, exists_lastReset standard, get_after, ?_, ?_, ?_, ?_, ?_⟩
  · intro doc text h o p
    exact step_read_eq_done_iff.trans (parse_eq_ok_iff h)
  · intro o t value
    exact step_writeNamed_name t value
  · intro name h o value
    exact step_writeNamed_unknown h value
  · intro text fault h o
    exact step_read_error h
  · intro steps o
    refine ⟨parse_toText o, ⟨o.changed, List.filter_sublist, fun t => mem_changed_iff, ?_⟩, ?_⟩
    · rw [describeAll]
      split
      · rename_i hnone
        rw [if_pos hnone]
      · rename_i hsome
        rw [if_neg hsome]
        rfl
    · intro recipe
      exact recipe.configure_eq o

/-- A write before a text that is read, and after it writes by an unknown name, by name, and a text
that cannot be read. -/
theorem run_remembered_mixed :
    let doc : Tree := .object [("unicode", .bool false)]
    let good := "\x7b\"unicode\":false\x7d"
    let bad := "\x7b\"octal\":1\x7d"
    let base := standard.set .unicode false
    let since : List OptionStep :=
      [.writeNamed "nope" true, .write .crlf false, .writeNamed "crlf" true, .read bad]
    let steps := .writeNamed "octal" true :: .read good :: since
    Writes doc good ∧ "nope" ∉ Toggle.names ∧ LastReset standard steps base since ∧
    (∀ o : Options, o.step (.read good) = (.done, base)) ∧
    (∀ o : Options, o.step (.writeNamed "nope" true) = (.truth false, o)) ∧
    (∃ fault, form.parse bad = .error fault ∧
      ∀ o : Options, o.step (.read bad) = (.unreadable fault, o)) ∧
    (standard.after steps).get .octal = false ∧ (standard.after steps).get .crlf = true ∧
    (standard.after steps).describeAll = "crlf | !unicode" := by
  intro doc good bad base since steps
  have hunicode := Json.spellsText_self "unicode".toList (by decide)
  have hblank := Json.isBlank_nil
  have hwrites : Writes doc good :=
    ⟨[], _, [], hblank, .object (.member .first hblank hunicode hblank hblank .false (.close hblank)),
      hblank, by decide⟩
  have hsays : Says doc base := decode_eq_some_iff.mp rfl
  obtain ⟨fault, hbad⟩ : ∃ fault, form.parse "\x7b\"octal\":1\x7d" = .error fault := ⟨_, rfl⟩
  obtain ⟨-, -, hlast, hread, -, hunknown, hfail, -⟩ := run_remembered
  have hgood : ∀ o : Options, o.step (.read good) = (.done, base) := fun o => (hread hwrites o base).mpr hsays
  have hsince : LastReset standard steps base since := by
    refine ⟨fun s hs => ?_, .inr ⟨[.writeNamed "octal" true], .read good, rfl, ?_⟩⟩
    · simp only [since, List.mem_cons, List.not_mem_nil, or_false] at hs
      rcases hs with rfl | rfl | rfl | rfl
      · rfl
      · rfl
      · rfl
      · rw [OptionStep.resets?, hbad]
        rfl
    · rw [OptionStep.resets?, step_read_eq_done_iff.mp (hgood standard)]
      rfl
  have hnope : "nope" ∉ Toggle.names := by decide
  refine ⟨hwrites, hnope, hsince, hgood, fun o => hunknown hnope o true, ⟨fault, hbad, hfail hbad⟩, ?_,
    ?_, ?_⟩
  · exact hlast hsince .octal
  · exact hlast hsince .crlf
  · decide +kernel

end Options

end CaptureTypes
