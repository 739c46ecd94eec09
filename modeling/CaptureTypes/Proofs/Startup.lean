/-
# What is compiled at the first use of a type

The pattern of a declaration is compiled twice: once to validate it, with
every toggle set, and once when the generated type is first used, with only
the changed toggles set on a fresh builder and the pattern read from a
literal.  Both times the engine is told the same, so what was validated
compiles again, to the same program and the same groups.
-/
import CaptureTypes.Match.Type
import CaptureTypes.Proofs.Alignment

namespace CaptureTypes

/-! ## Writing several toggles -/

namespace Options

/-- Of toggles that are copied from other options, each has its value from there. -/
theorem get_foldl_set (p : Options) (u : Toggle) (toggles : List Toggle) (o : Options) :
    (toggles.foldl (fun o t => o.set t (p.get t)) o).get u
      = if u ∈ toggles then p.get u else o.get u := by
  induction toggles generalizing o with
  | nil => rfl
  | cons t ts ih =>
      rw [List.foldl_cons, ih, get_set]
      by_cases hu : u ∈ ts
      · rw [if_pos hu, if_pos (List.mem_cons_of_mem _ hu)]
      · by_cases ht : u = t
        · rw [if_neg hu, if_pos ht, ht, if_pos List.mem_cons_self]
        · rw [if_neg hu, if_neg ht, if_neg fun h => (List.mem_cons.mp h).elim ht hu]

theorem get_freshOptions (t : Toggle) : freshOptions.get t = t.standard := by cases t <;> rfl

/-- Copying the changed toggles to fresh options copies all of them. -/
theorem foldl_set_changed (o : Options) :
    o.changed.foldl (fun p t => p.set t (o.get t)) freshOptions = o := by
  refine ext_get fun t => ?_
  rw [get_foldl_set, get_freshOptions]
  split
  · rfl
  · rename_i hunchanged
    by_contra hne
    exact hunchanged (List.mem_filter.mpr ⟨t.mem_all, bne_iff_ne.mpr (Ne.symm hne)⟩)

/-- Copying every toggle leaves nothing of the options before. -/
theorem foldl_set_all (o p : Options) :
    Toggle.all.foldl (fun p t => p.set t (o.get t)) p = o := by
  refine ext_get fun t => ?_
  rw [get_foldl_set, if_pos t.mem_all]

end Options

namespace Pattern

theorem Recipe.foldl_set (o : Options) (toggles : List Toggle) (b : Recipe) :
    toggles.foldl (fun b t => b.set t (o.get t)) b
      = ⟨b.pattern, toggles.foldl (fun p t => p.set t (o.get t)) b.options⟩ := by
  induction toggles generalizing b with
  | nil => rfl
  | cons t ts ih => exact ih (b.set t (o.get t))

/-- A configured recipe has the given options, whatever it had before. -/
theorem Recipe.configure_eq (b : Recipe) (o : Options) : b.configure o = ⟨b.pattern, o⟩ := by
  rw [configure, foldl_set, Options.foldl_set_all]

/-- A match has a range, or none, for every group. -/
theorem Compiled.length_of_searchIn {c : Compiled} {text : List Char} {found : (Nat × Nat) × Ranges}
    (h : c.searchIn text = some found) : found.2.length = c.groups.length := by
  obtain ⟨history, -, h⟩ := Option.bind_eq_some_iff.mp h
  obtain ⟨whole, -, h⟩ := Option.bind_eq_some_iff.mp h
  cases h
  rw [List.length_map, List.length_range]

end Pattern

/-! ## The two recipes -/

namespace Spec

theorem recipe_eq (s : Spec) : s.recipe = ⟨s.pattern, s.options⟩ :=
  Pattern.Recipe.configure_eq _ _

theorem replayed_eq (s : Spec) : s.replayed = ⟨s.pattern, s.options⟩ := by
  rw [replayed, Pattern.Recipe.foldl_set, Options.foldl_set_changed]

/-- **What runs is what was validated.**  Configuring a recipe leaves nothing of its options
before.  Whenever a declaration is generated, the statements read off its tokens replay to the
recipe that was resolved, the pattern and all toggles; so compiling it at the first use never
fails, and gives the same program with the same groups.  Both constants show the pattern. -/
theorem generate_startup :
    (∀ (b : Pattern.Recipe) (o : Options), b.configure o = ⟨b.pattern, o⟩) ∧
    ∀ (s : Spec) (ts : List PlainToken), s.generate.answer = .ok ts →
      ∃ (r : Resolved) (surface : Surface),
        s.resolve = .ok r ∧ Surface.read? ts = some surface ∧
        surface.startup = s.recipe ∧ surface.startup = ⟨s.pattern, s.options⟩ ∧
        surface.startup.compileAtStartup = .ok r.compiled ∧
        surface.pattern = s.pattern ∧ surface.traitPattern = s.pattern ∧
        Describe r.compiled.groups r.groups ∧
        ∀ (text : List Char) (found : (Nat × Nat) × Pattern.Ranges),
          r.compiled.searchIn text = some found → found.2.length = r.groups.length := by
  refine ⟨Pattern.Recipe.configure_eq, fun s ts h => ?_⟩
  obtain ⟨r, names, hgenerates⟩ := exists_generates h
  have hdescribe : Describe r.compiled.groups r.groups := by
    rw [hgenerates.groups]
    exact describe_listFrom r.compiled.groups
  have hread : Surface.read? ts = some (s.surface names) := by
    rw [hgenerates.tokens]
    exact read?_tokensWith s names
  have hstartup : (s.surface names).startup = s.recipe := (replayed_eq s).trans (recipe_eq s).symm
  refine ⟨r, s.surface names, hgenerates.resolved, hread, hstartup, replayed_eq s, ?_, rfl, rfl,
    hdescribe, fun text found hfound => ?_⟩
  · rw [hstartup, Pattern.Recipe.compileAtStartup, hgenerates.compiled]
  · rw [Pattern.Compiled.length_of_searchIn hfound, hdescribe.1]

/-- A pattern with quotes, a backslash and the end of a line, under changed options. -/
theorem generate_startup_quoted :
    let changed : Options := { Options.standard with multiLine := true, octal := true }
    ∃ (ts : List PlainToken) (surface : Surface),
      (Spec.generate ⟨"M", "\"(a)\\\n\"", changed, ["m"]⟩).answer = .ok ts ∧
      Surface.read? ts = some surface ∧ surface.startup = ⟨"\"(a)\\\n\"", changed⟩ := by
  intro changed
  obtain ⟨ts, hts⟩ := exists_of_isOk
    (x := (Spec.generate ⟨"M", "\"(a)\\\n\"", changed, ["m"]⟩).answer) (by decide +kernel)
  obtain ⟨r, surface, -, hread, -, hstartup, -⟩ := generate_startup.2 _ ts hts
  exact ⟨ts, surface, hts, hread, hstartup⟩

end Spec

end CaptureTypes
