/-
# All layouts of one manifest

The same options, declarations and manifests can be laid out in many
objects: the members come in any order, and one that would only say what is
the case without it may be left out.  A `Slot` says this about one member,
and `IsLayout` about the objects of a whole structure, those inside it
included.

A structure is read from its members one by one, so on the way it is given
in part: the fields named so far hold what they will hold, the others what
nobody set.  `Parts` is that state as a function of the names seen; it is
what every member preserves, whatever the order (`decodeMembers_slots`).
-/
import CaptureTypes.Proofs.JsonRender
import CaptureTypes.Proofs.ManifestText
import Mathlib.Data.List.Forall2

namespace CaptureTypes

namespace Json

/-- One member of an object as it may be written: its name, the values that say what it holds, and
whether it may be left out. -/
structure Slot where
  name : String
  value : Tree → Prop
  omittable : Prop

/-- Members that lay out slots: none twice, none but these, and all that may not be left out. The
order is free. -/
structure LaysOut (slots : List Slot) (ms : List (String × Tree)) : Prop where
  distinct : (ms.map Prod.fst).Nodup
  given : ∀ e ∈ ms, ∃ s ∈ slots, s.name = e.1 ∧ s.value e.2
  complete : ∀ s ∈ slots, s.omittable ∨ s.name ∈ ms.map Prod.fst

/-- An object that lays out slots. -/
def IsLayout (slots : List Slot) (t : Tree) : Prop := ∃ ms, t = .object ms ∧ LaysOut slots ms

namespace Form.Meaning

variable {α : Type} {form : Form α}

/-- A structure as far as some of its fields are given. -/
structure Parts (m : form.Meaning) (slots : List Slot) (a : α) where
  part : List String → α
  part_nil : part [] = form.blank
  known : ∀ s ∈ slots, (form.fields.find? fun f => f.name == s.name).isSome = true
  fills : ∀ s ∈ slots, ∀ t, s.value t →
    ∃ put, m.put s.name t = some put ∧ ∀ seen, put (part seen) = part (s.name :: seen)
  whole : ∀ seen : List String, (∀ s ∈ slots, s.omittable ∨ s.name ∈ seen) →
    part seen = a ∧ form.missing? seen = none

variable {m : form.Meaning} {slots : List Slot} {a : α}

/-- Each member fills its own slot, whichever were filled before. -/
theorem decodeMembers_slots (p : m.Parts slots a) {ms : List (String × Tree)} {seen : List String}
    (hdistinct : (ms.map Prod.fst).Nodup) (hfresh : ∀ name ∈ ms.map Prod.fst, name ∉ seen)
    (hgiven : ∀ e ∈ ms, ∃ s ∈ slots, s.name = e.1 ∧ s.value e.2) :
    ∃ seen', m.decodeMembers seen (p.part seen) ms = some (seen', p.part seen') ∧
      ∀ name, name ∈ seen ∨ name ∈ ms.map Prod.fst → name ∈ seen' := by
  induction ms generalizing seen with
  | nil => exact ⟨seen, rfl, fun name h => h.resolve_right List.not_mem_nil⟩
  | cons e ms ih =>
      obtain ⟨key, t⟩ := e
      obtain ⟨⟨s, hs, hname, hvalue⟩, hrest⟩ := List.forall_mem_cons.mp hgiven
      obtain rfl : s.name = key := hname
      obtain ⟨hkey, hnodup⟩ := List.nodup_cons.mp hdistinct
      obtain ⟨hunseen, hunseen'⟩ := List.forall_mem_cons.mp hfresh
      obtain ⟨put, hput, hfill⟩ := p.fills s hs t hvalue
      have hfresh' : ∀ name ∈ ms.map Prod.fst, name ∉ s.name :: seen := by
        intro name hmem hseen
        rcases List.mem_cons.mp hseen with rfl | hseen
        · exact hkey hmem
        · exact hunseen' name hmem hseen
      obtain ⟨seen', hdecode, hseen'⟩ := ih hnodup hfresh' hrest
      refine ⟨seen', ?_, fun name hname => hseen' name ?_⟩
      · rw [m.decodeMembers_known (p.known s hs) hunseen hput, hfill, hdecode]
      · rcases hname with hname | hname
        · exact .inl (List.mem_cons_of_mem _ hname)
        · rcases List.mem_cons.mp hname with rfl | hname
          · exact .inl List.mem_cons_self
          · exact .inr hname

/-- **Every layout of a structure makes the structure.** -/
theorem decode_of_isLayout (p : m.Parts slots a) {t : Tree} (h : IsLayout slots t) :
    m.decode t = some a := by
  obtain ⟨ms, rfl, hms⟩ := h
  obtain ⟨seen, hdecode, hseen⟩ :=
    decodeMembers_slots p hms.distinct (fun _ _ => List.not_mem_nil) hms.given
  have hcomplete : ∀ s ∈ slots, s.omittable ∨ s.name ∈ seen :=
    fun s hs => (hms.complete s hs).imp_right fun hmem => hseen s.name (.inr hmem)
  obtain ⟨hpart, hmissing⟩ := p.whole seen hcomplete
  rw [decode, ← p.part_nil, hdecode, Option.bind_some, complete?, hmissing, hpart]
  rfl

end Form.Meaning

end Json

open Json (Tree Slot IsLayout LaysOut Writes)

/-! ## Options -/

namespace Options

/-- The options with given values of all toggles. -/
def ofValues (f : Toggle → Bool) : Options where
  ignoreCase := f .ignoreCase
  multiLine := f .multiLine
  dotMatchesNewLine := f .dotMatchesNewLine
  ignoreWhitespace := f .ignoreWhitespace
  swapGreed := f .swapGreed
  crlf := f .crlf
  unicode := f .unicode
  octal := f .octal

theorem get_ofValues (f : Toggle → Bool) (t : Toggle) : (ofValues f).get t = f t := by
  cases t <;> rfl

/-- The members of an object of options: every toggle, unless it has its standard value. -/
def slots (o : Options) : List Slot :=
  Toggle.all.map fun t => ⟨t.name, (· = .bool (o.get t)), o.get t = t.standard⟩

/-- Options with the toggles named so far. -/
def parts (o : Options) : meaning.Parts o.slots o where
  part := fun seen => ofValues fun t => if t.name ∈ seen then o.get t else t.standard
  part_nil := rfl
  known := by
    intro s hs
    obtain ⟨t, -, rfl⟩ := List.mem_map.mp hs
    exact find?_field t
  fills := by
    intro s hs value hvalue
    obtain ⟨t, ht, rfl⟩ := List.mem_map.mp hs
    obtain rfl : value = .bool (o.get t) := hvalue
    refine ⟨fun p => p.set t (o.get t), ?_, fun seen => ext_get fun u => ?_⟩
    · simp only [meaning, put, t.named?_name, Option.bind_some, Json.Tree.truth?, Option.map_some]
    · rw [get_set, get_ofValues, get_ofValues]
      by_cases hu : u = t
      · simp [hu]
      · have hname : u.name ≠ t.name := fun h => hu (Toggle.name_inj h)
        simp [hu, hname]
  whole := by
    intro seen hseen
    constructor
    · refine ext_get fun t => ?_
      rw [get_ofValues]
      split
      case isTrue => rfl
      case isFalse hnot =>
        have hgiven := hseen _ (List.mem_map_of_mem t.mem_all)
        exact (hgiven.resolve_right hnot).symm
    · have hnone : form.fields.find? (fun f => !f.optional && !seen.contains f.name) = none := by
        refine List.find?_eq_none.mpr fun f hf => ?_
        obtain ⟨t, -, rfl⟩ := List.mem_map.mp hf
        simp [Toggle.field]
      rw [Json.Form.missing?, hnone, Option.map_none]

/-- The object that options are written as names all toggles. -/
theorem isLayout_toJson (o : Options) : IsLayout o.slots o.toJson.tree := by
  have hmembers : o.toJson.tree
      = .object (Toggle.all.map fun t => (t.name, .bool (o.get t))) := by
    rw [toJson, Json.tree, Json.treeMembers_eq_map, List.map_map]
    rfl
  have hnames : (Toggle.all.map fun t => (t.name, Tree.bool (o.get t))).map Prod.fst
      = Toggle.names := by
    rw [List.map_map]
    rfl
  refine ⟨_, hmembers, ?_, fun e he => ?_, fun s hs => .inr ?_⟩
  · rw [hnames]
    decide
  · obtain ⟨t, ht, rfl⟩ := List.mem_map.mp he
    exact ⟨_, List.mem_map_of_mem ht, rfl, rfl⟩
  · obtain ⟨t, ht, rfl⟩ := List.mem_map.mp hs
    rw [hnames]
    exact List.mem_map_of_mem ht

end Options

/-! ## Declarations -/

namespace Spec

/-- The members of a declaration: the options and the modules only if they are not the standard
ones. -/
def slots (s : Spec) : List Slot :=
  [⟨"name", (· = .text s.typeName), False⟩,
    ⟨"pattern", (· = .text s.pattern), False⟩,
    ⟨"options", IsLayout s.options.slots, s.options = .standard⟩,
    ⟨"module", (· = .array (s.modulePath.map .text)), s.modulePath = []⟩]

theorem mapM_text? (ss : List String) : (ss.map Tree.text).mapM Tree.text? = some ss := by
  induction ss with
  | nil => rfl
  | cons s ss ih => simp [Json.Tree.text?, ih]

/-- A declaration with the members named so far. -/
def parts (s : Spec) : meaning.Parts s.slots s where
  part := fun seen =>
    { typeName := if "name" ∈ seen then s.typeName else ""
      pattern := if "pattern" ∈ seen then s.pattern else ""
      options := if "options" ∈ seen then s.options else .standard
      modulePath := if "module" ∈ seen then s.modulePath else [] }
  part_nil := rfl
  known := by
    intro slot hslot
    simp only [slots, List.mem_cons, List.not_mem_nil, or_false] at hslot
    rcases hslot with rfl | rfl | rfl | rfl
    all_goals rfl
  fills := by
    intro slot hslot value hvalue
    simp only [slots, List.mem_cons, List.not_mem_nil, or_false] at hslot
    rcases hslot with rfl | rfl | rfl | rfl
    · obtain rfl : value = .text s.typeName := hvalue
      exact ⟨_, rfl, fun seen => by simp⟩
    · obtain rfl : value = .text s.pattern := hvalue
      exact ⟨_, rfl, fun seen => by simp⟩
    · have hoptions : Options.meaning.decode value = some s.options :=
        Json.Form.Meaning.decode_of_isLayout s.options.parts hvalue
      refine ⟨fun s' => { s' with options := s.options }, ?_, fun seen => by simp⟩
      simp only [meaning, put, hoptions, Option.map_some]
    · obtain rfl : value = .array (s.modulePath.map .text) := hvalue
      refine ⟨fun s' => { s' with modulePath := s.modulePath }, ?_, fun seen => by simp⟩
      simp only [meaning, put, Json.Tree.items?, Option.bind_some, mapM_text?, Option.map_some]
  whole := by
    intro seen hseen
    simp only [slots, List.forall_mem_cons, false_or] at hseen
    obtain ⟨hname, hpattern, hoptions, hmodule, -⟩ := hseen
    constructor
    · have hopt : (if "options" ∈ seen then s.options else .standard) = s.options := by
        split
        case isTrue => rfl
        case isFalse hnot => exact (hoptions.resolve_right hnot).symm
      have hmod : (if "module" ∈ seen then s.modulePath else []) = s.modulePath := by
        split
        case isTrue => rfl
        case isFalse hnot => exact (hmodule.resolve_right hnot).symm
      rw [hopt, hmod, if_pos hname, if_pos hpattern]
    · simp [Json.Form.missing?, form, nameField, patternField, optionsField, moduleField, hname,
        hpattern]

theorem isLayout_toJson (s : Spec) : IsLayout s.slots s.toJson.tree := by
  have hmodule : (Json.array (s.modulePath.map .text)).tree = .array (s.modulePath.map .text) := by
    rw [Json.tree, Json.treeItems_eq_map, List.map_map]
    rfl
  have hmembers : s.toJson.tree = .object [("name", .text s.typeName), ("pattern", .text s.pattern),
      ("options", s.options.toJson.tree), ("module", .array (s.modulePath.map .text))] := by
    rw [← hmodule]
    rfl
  refine ⟨_, hmembers, by simp, ?_, by simp [slots]⟩
  have hoptions := s.options.isLayout_toJson
  simp [slots, hoptions]

/-- A text that writes a layout of a declaration is read as the declaration. -/
theorem parse_of_isLayout {s : Spec} {t : Tree} {text : String} (h : IsLayout s.slots t)
    (htext : Writes t text) : form.parse text = .ok s :=
  (meaning.parse_eq_ok_iff htext).mpr (Json.Form.Meaning.decode_of_isLayout s.parts h)

end Spec

/-! ## Manifests -/

namespace Manifest

/-- The members of a manifest: the path to the runtime only if it is not the standard one, and
some layout of every declaration. -/
def slots (m : Manifest) : List Slot :=
  [⟨"runtime", (· = .text m.runtime), m.runtime = standardRuntime⟩,
    ⟨"patterns", fun t => ∃ ts, t = .array ts ∧
      List.Forall₂ (fun (s : Spec) t => IsLayout s.slots t) m.patterns ts, False⟩]

theorem mapM_decode {ss : List Spec} {ts : List Tree}
    (h : List.Forall₂ (fun (s : Spec) t => IsLayout s.slots t) ss ts) :
    ts.mapM Spec.meaning.decode = some ss := by
  induction h with
  | nil => rfl
  | @cons s t ss ts hs _ ih =>
      have hdecode := Json.Form.Meaning.decode_of_isLayout s.parts hs
      rw [List.mapM_cons, hdecode, ih]
      rfl

/-- A manifest with the members named so far. -/
def parts (m : Manifest) : meaning.Parts m.slots m where
  part := fun seen =>
    { runtime := if "runtime" ∈ seen then m.runtime else standardRuntime
      patterns := if "patterns" ∈ seen then m.patterns else [] }
  part_nil := rfl
  known := by
    intro slot hslot
    simp only [slots, List.mem_cons, List.not_mem_nil, or_false] at hslot
    rcases hslot with rfl | rfl
    all_goals rfl
  fills := by
    intro slot hslot value hvalue
    simp only [slots, List.mem_cons, List.not_mem_nil, or_false] at hslot
    rcases hslot with rfl | rfl
    · obtain rfl : value = .text m.runtime := hvalue
      exact ⟨_, rfl, fun seen => by simp⟩
    · obtain ⟨ts, rfl, hts⟩ := hvalue
      refine ⟨fun m' => { m' with patterns := m.patterns }, ?_, fun seen => by simp⟩
      simp only [meaning, put, Json.Tree.items?, Option.bind_some, mapM_decode hts,
        Option.map_some]
  whole := by
    intro seen hseen
    simp only [slots, List.forall_mem_cons, false_or] at hseen
    obtain ⟨hruntime, hpatterns, -⟩ := hseen
    constructor
    · have hrun : (if "runtime" ∈ seen then m.runtime else standardRuntime) = m.runtime := by
        split
        case isTrue => rfl
        case isFalse hnot => exact (hruntime.resolve_right hnot).symm
      rw [hrun, if_pos hpatterns]
    · simp [Json.Form.missing?, form, runtimeField, patternsField, hpatterns]

theorem isLayout_toJson (m : Manifest) : IsLayout m.slots m.toJson.tree := by
  have hmembers : m.toJson.tree = .object [("runtime", .text m.runtime),
      ("patterns", .array (m.patterns.map fun s => s.toJson.tree))] := by
    simp only [toJson, Json.tree, Json.treeMembers, Json.treeItems_eq_map, List.map_map,
      Function.comp_def]
  have hpatterns : List.Forall₂ (fun (s : Spec) t => IsLayout s.slots t) m.patterns
      (m.patterns.map fun s => s.toJson.tree) := by
    refine List.forall₂_map_right_iff.mpr ?_
    exact List.forall₂_same.mpr fun s _ => s.isLayout_toJson
  refine ⟨_, hmembers, by simp, ?_, by simp [slots]⟩
  simpa [slots] using hpatterns

end Manifest

theorem Builder.fromManifest_of_isLayout {runtime : String} {specs : List Spec} {t : Tree}
    {text : String} (h : IsLayout (Manifest.mk runtime specs).slots t) (htext : Writes t text) :
    fromManifest text = .ok ⟨specs, runtime⟩ := by
  have hdecode := Json.Form.Meaning.decode_of_isLayout (Manifest.mk runtime specs).parts h
  exact (fromManifest_eq_ok_iff htext).mpr ⟨_, hdecode, rfl⟩

/-- **What is written is read back, and so is every other layout of it.**  A declaration is read
back from its text.  The manifest of any declarations with any path to the runtime is read as the
builder that holds just these, in their order; and every text that writes a layout of the manifest
is read as the same builder, whatever the order of the members of the manifest, of its
declarations and of their options, and whichever members that say nothing new are left out. -/
theorem Manifest.read_back :
    (∀ s : Spec, Spec.form.parse s.toJson.toText = .ok s) ∧
    (∀ (runtime : String) (specs : List Spec),
      Builder.fromManifest (Manifest.mk runtime specs).toJson.toText = .ok ⟨specs, runtime⟩) ∧
    (∀ {runtime : String} {specs : List Spec} {t : Tree} {text : String},
      IsLayout (Manifest.mk runtime specs).slots t → Writes t text →
        Builder.fromManifest text = .ok ⟨specs, runtime⟩) := by
  refine ⟨fun s => ?_, fun runtime specs => ?_, fun h htext => ?_⟩
  · exact Spec.parse_of_isLayout s.isLayout_toJson (Json.writes_toText _)
  · exact Builder.fromManifest_of_isLayout (Manifest.isLayout_toJson _) (Json.writes_toText _)
  · exact Builder.fromManifest_of_isLayout h htext

/-- Members in another order, an escaped quotation mark, and nothing that says what nobody set. -/
theorem Manifest.read_back_reordered :
    let options := (Options.standard.set .unicode false).set .octal true
    let s : Spec := ⟨"A", "a\"", options, []⟩
    let flags : Tree := .object [("octal", .bool true), ("unicode", .bool false)]
    let declaration : Tree :=
      .object [("pattern", .text "a\""), ("options", flags), ("name", .text "A")]
    let manifest : Tree := .object [("patterns", .array [declaration])]
    let text := "\x7b\"patterns\":[\x7b\"pattern\":\"a\\\"\",\"options\":" ++
      "\x7b\"octal\":true, \"unicode\":false\x7d,\"name\":\"A\"\x7d]\x7d"
    IsLayout (Manifest.mk standardRuntime [s]).slots manifest ∧ Writes manifest text ∧
      Builder.fromManifest text = .ok ⟨[s], standardRuntime⟩ := by
  intro options s flags declaration manifest text
  have hflags : IsLayout options.slots flags := by
    refine ⟨_, rfl, by decide, ?_, ?_⟩
    · simp [Options.slots, Toggle.all, Toggle.name, options, Options.set, Options.get]
    · simp [Options.slots, Toggle.all, Toggle.name, Toggle.standard, options, Options.set,
        Options.get, Options.standard]
  have hdeclaration : IsLayout s.slots declaration := by
    refine ⟨_, rfl, by decide, ?_, by simp [Spec.slots, s]⟩
    simpa [Spec.slots, s] using hflags
  have hmanifest : IsLayout (Manifest.mk standardRuntime [s]).slots manifest := by
    refine ⟨_, rfl, by decide, ?_, by simp [Manifest.slots]⟩
    simpa [Manifest.slots] using hdeclaration
  have hblank := Json.isBlank_nil
  have hspace : Json.IsBlank [' '] := by simp [Json.IsBlank, Json.Reader.isSpace]
  have hoctal := Json.spellsText_self "octal".toList (by decide)
  have hunicode := Json.spellsText_self "unicode".toList (by decide)
  have hpattern := Json.spellsText_self "pattern".toList (by decide)
  have hoptions := Json.spellsText_self "options".toList (by decide)
  have hname := Json.spellsText_self "name".toList (by decide)
  have hpatterns := Json.spellsText_self "patterns".toList (by decide)
  have hA := Json.spellsText_self "A".toList (by decide)
  have hquote : Json.SpellsText ['a', '\\', '"'] "a\"".toList :=
    .plain (by decide) (by decide) (by decide) (.escape rfl .nil)
  have hflagsText := Json.SpellsMembers.member .first hblank hoctal hblank hblank .true
    (.member (.comma hblank) hspace hunicode hblank hblank .false (.close hblank))
  have hdeclarationText := Json.SpellsMembers.member .first hblank hpattern hblank hblank
    (.text hquote) (.member (.comma hblank) hblank hoptions hblank hblank (.object hflagsText)
      (.member (.comma hblank) hblank hname hblank hblank (.text hA) (.close hblank)))
  have hmanifestText := Json.SpellsMembers.member .first hblank hpatterns hblank hblank
    (.array (.item .first hblank (.object hdeclarationText) (.close hblank))) (.close hblank)
  have hwrites : Writes manifest text :=
    ⟨[], _, [], hblank, .object hmanifestText, hblank, by decide⟩
  exact ⟨hmanifest, hwrites, Manifest.read_back.2.2 hmanifest hwrites⟩

end CaptureTypes
