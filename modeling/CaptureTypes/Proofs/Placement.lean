/-
# Where declarations are placed in a file

A declaration stands in a file as one definition: its outermost module, or
the type itself if it is in none.  Inside its modules there is nothing
else, since the next declaration brings modules of its own.  So a file
defines in each place what its declarations need there, and two definitions
can have the same name at the top only.  They do as soon as two
declarations are in modules that begin with the same one, for nobody merges
them or looks at more than one declaration.
-/
import CaptureTypes.Proofs.Isolation
import CaptureTypes.Proofs.QuietPath
import Mathlib.Data.List.Nodup

namespace CaptureTypes

open Emission Emission.Piece Readback

/-- The name under which a declaration stands at the top of a file: that of its outermost module,
or of its type if it is in none. -/
def Spec.topName (s : Spec) : Option String :=
  (Token.name? (s.modulePath.headD s.typeName)).map bareName

/-! ## Items -/

section

variable {runtime : List PlainToken}

theorem isQuiet_attributes (attributes : List (List Piece)) :
    IsQuiet (fillAll runtime (attributes.flatMap attributePieces)) := by
  induction attributes with
  | nil => exact isQuiet_nil
  | cons a attributes ih =>
      have hattribute : IsQuiet (fillAll runtime (attributePieces a)) :=
        IsQuiet.append (isQuiet_sign (by decide) false) (isQuiet_group _ _)
      rw [List.flatMap_cons, fillAll_append]
      exact IsQuiet.append hattribute ih

theorem isQuiet_implementation {attributes : List (List Piece)} {binder type : List Piece}
    {trait : Option (List Piece)} {members : List Member}
    (hbinder : IsQuiet (fillAll runtime binder)) (htype : IsQuiet (fillAll runtime type))
    (htrait : ∀ t ∈ trait, IsQuiet (fillAll runtime t)) :
    IsQuiet (fillAll runtime
      (Item.implementation attributes binder trait type members).pieces) := by
  have hattributes : IsQuiet (fillAll runtime (attributes.flatMap attributePieces)) :=
    isQuiet_attributes attributes
  have himpl : IsQuiet (fillAll runtime (Emission.word "impl")) := rfl
  have hfor : IsQuiet (fillAll runtime (Emission.word "for")) := rfl
  have hend : ∀ inner, IsQuiet (fillAll runtime type ++ [Token.group () .brace inner]) :=
    fun inner => htype.append (isQuiet_group _ inner)
  cases trait with
  | none =>
      simp only [Item.pieces, fillAll_append, List.append_assoc]
      exact hattributes.append (himpl.append (hbinder.append (hend _)))
  | some t =>
      simp only [Item.pieces, fillAll_append, List.append_assoc]
      exact hattributes.append
        (himpl.append (hbinder.append ((htrait t rfl).append (hfor.append (hend _)))))

theorem defines_struct {attributes : List (List Piece)} {name : String}
    {fields : List (String × List Piece)} :
    Defines (fillAll runtime
      (Item.struct [] attributes [.word "pub"] name fields).pieces) [⟨bareName name, none⟩] := by
  have hattributes : IsQuiet (fillAll runtime (attributes.flatMap attributePieces)) :=
    isQuiet_attributes attributes
  have hstruct : ∀ inner, Defines (fillAll runtime ([PlainToken.word "pub"].map .token) ++
      (fillAll runtime (words ["struct", name]) ++ (fillAll runtime (angles (lifetime "t")) ++
        [Token.group () .brace inner]))) [⟨bareName name, none⟩] := fun _ => rfl
  simp only [Item.pieces, List.map_nil, List.nil_append, fillAll_append, List.append_assoc]
  exact Defines.append hattributes (hstruct _)

theorem defines_submodule (name : String) (items : List Item) :
    Defines (fillAll runtime (Item.submodule name items).pieces)
      [⟨bareName name, some (fillAll runtime (Item.allPieces items))⟩] := by
  rfl

/-- **A declaration defines its type**, and nothing else where it stands. -/
theorem defines_declaration (hruntime : IsQuiet runtime) {name : String}
    (hname : Token.isName name = true) (s : Spec) (accessors : List Accessor) :
    Defines (fillAll runtime (Item.allPieces (declaration name s accessors [] [.word "pub"])))
      [⟨bareName name, none⟩] := by
  have hname : IsQuiet (fillAll runtime (Emission.word name)) :=
    isQuiet_word (Grammar.ne_of_isName hname).1 (Grammar.ne_of_isName hname).2
  have hofText : IsQuiet (fillAll runtime ofText) := rfl
  have htype : IsQuiet (fillAll runtime (Emission.word name ++ ofText)) := by
    rw [fillAll_append]
    exact hname.append hofText
  have htrait : IsQuiet (fillAll runtime traitType) :=
    hruntime.append (show IsQuiet (fillAll runtime (under ["TypedMatch"] ++ ofText)) from rfl)
  have hdisplay : IsQuiet (fillAll runtime (Emission.word name ++ angles (lifetime "_"))) := by
    rw [fillAll_append]
    exact hname.append (show IsQuiet (fillAll runtime (angles (lifetime "_"))) from rfl)
  have himplementation : IsQuiet (fillAll runtime (Item.implementation [] ofText (some traitType)
      (Emission.word name ++ ofText) (traitMembers s accessors)).pieces) :=
    isQuiet_implementation hofText htype fun t ht => by cases ht; exact htrait
  have hown : IsQuiet (fillAll runtime (Item.implementation [allow "dead_code"] ofText none
      (Emission.word name ++ ofText) (ownMembers s accessors)).pieces) :=
    isQuiet_implementation hofText htype nofun
  have hshown : IsQuiet (fillAll runtime (displayItem name).pieces) :=
    isQuiet_implementation isQuiet_nil hdisplay fun t ht => by cases ht; rfl
  simp only [declaration, Item.allPieces, fillAll_append]
  exact Defines.append defines_struct
    (himplementation.append (hown.append (hshown.append isQuiet_nil)))

end

/-! ## One definition in each place -/

/-- Tokens that define a type, alone or in modules with nothing else inside; `name` is what they
define where they stand. -/
inductive IsPlaced : (name : String) → List PlainToken → Prop
  | type {name : String} {ts : List PlainToken} : Defines ts [⟨name, none⟩] → IsPlaced name ts
  | submodule {name next : String} {ts inner : List PlainToken} :
      Defines ts [⟨name, some inner⟩] → IsPlaced next inner → IsPlaced name ts

namespace IsPlaced

/-- The one definition of placed tokens; what is inside it is placed again. -/
theorem exists_definition {name : String} {ts : List PlainToken} (h : IsPlaced name ts) :
    ∃ d : Definition, Defines ts [d] ∧ d.name = name ∧
      ∀ inner, d.inside = some inner → ∃ next, IsPlaced next inner := by
  cases h with
  | type hts => exact ⟨_, hts, rfl, nofun⟩
  | @submodule _ next _ inner hts hinner =>
      refine ⟨_, hts, rfl, fun found hfound => ?_⟩
      cases hfound
      exact ⟨next, hinner⟩

/-- Modules around items that define a type. -/
theorem nest {runtime : List PlainToken} {items : List Item} {name : String}
    (h : Defines (fillAll runtime (Item.allPieces items)) [⟨bareName name, none⟩])
    (modules : List String) :
    IsPlaced (bareName (modules.headD name))
      (fillAll runtime (Item.allPieces (Item.nest modules items))) := by
  induction modules with
  | nil => exact .type h
  | cons first rest ih =>
      refine .submodule ?_ ih
      rw [Item.nest, List.foldr_cons, Item.allPieces, fillAll_append]
      exact Defines.append (defines_submodule first (Item.nest rest items)) isQuiet_nil

/-- Placed tokens one after the other define their names, and what is inside is placed. -/
theorem flatten {names : List String} {tss : List (List PlainToken)}
    (h : List.Forall₂ IsPlaced names tss) :
    ∃ ds, Defines tss.flatten ds ∧ ds.map Definition.name = names ∧
      ∀ d ∈ ds, ∀ inner, d.inside = some inner → ∃ next, IsPlaced next inner := by
  induction h with
  | nil => exact ⟨[], isQuiet_nil, rfl, nofun⟩
  | cons hfirst _ ih =>
      obtain ⟨d, hd, hname, hinside⟩ := hfirst.exists_definition
      obtain ⟨ds, hds, hnames, hinsides⟩ := ih
      refine ⟨d :: ds, Defines.append hd hds, by rw [List.map_cons, hname, hnames], ?_⟩
      exact List.forall_mem_cons.mpr ⟨hinside, hinsides⟩

/-- **Two definitions can have the same name at the top only.** -/
theorem isDistinct_iff {names : List String} {tss : List (List PlainToken)}
    (h : List.Forall₂ IsPlaced names tss) : IsDistinct tss.flatten ↔ names.Nodup := by
  obtain ⟨ds, hds, hnames, hinsides⟩ := flatten h
  -- Below the top every place is inside a placed definition, and has one definition.
  have hscope : ∀ ts, IsScope tss.flatten ts → ts = tss.flatten ∨ ∃ name, IsPlaced name ts := by
    intro ts hts
    induction hts with
    | file => exact .inl rfl
    | @inside ts inner d _ hd hinner ih =>
        rcases ih with rfl | ⟨name, hplaced⟩
        · rw [hds.definitions_eq] at hd
          exact .inr (hinsides d hd inner hinner)
        · obtain ⟨d', hd', -, hinside⟩ := hplaced.exists_definition
          rw [hd'.definitions_eq, List.mem_singleton] at hd
          exact .inr (hinside inner (hd ▸ hinner))
  constructor
  · intro hdistinct
    have htop := hdistinct _ .file
    rwa [hds.definitions_eq, hnames] at htop
  · intro hnodup ts hts
    rcases hscope ts hts with rfl | ⟨name, hplaced⟩
    · rwa [hds.definitions_eq, hnames]
    · obtain ⟨d, hd, -, -⟩ := hplaced.exists_definition
      rw [hd.definitions_eq]
      exact List.nodup_singleton _

end IsPlaced

/-! ## Declarations in a file -/

theorem Token.isName_of_name? {text name : String} (h : Token.name? text = some name) :
    Token.isName name = true := by
  obtain ⟨found, -, h⟩ := Option.bind_eq_some_iff.mp h
  simp only at h
  split at h
  · cases h
    assumption
  · cases h

/-- The first name of checked modules is that of the first module. -/
theorem modulesOf_headD {segments modules : List String} {typeName name : String}
    (h : modulesOf segments = .ok modules) (hname : Token.name? typeName = some name) :
    Token.name? (segments.headD typeName) = some (modules.headD name) := by
  cases segments with
  | nil =>
      cases h
      exact hname
  | cons segment rest =>
      rw [modulesOf_cons] at h
      split at h
      · cases h
      · rename_i first hfirst
        split at h
        · cases h
        · cases h
          exact hfirst

/-- **A declaration is placed** under its name at the top. -/
theorem Spec.isPlaced_of_outcome {s : Spec} {runtime ts : List PlainToken}
    (hruntime : IsQuiet runtime) (h : s.outcome runtime = .ok ts) :
    ∃ name, s.topName = some name ∧ IsPlaced name ts := by
  unfold outcome emit at h
  split at h
  · cases h
  · split at h
    · cases h
    · rename_i names hnames
      cases h
      obtain ⟨htype, hmodules, -⟩ := namesWith_ok_iff.mp hnames
      refine ⟨bareName (names.modules.headD names.typeName), ?_, ?_⟩
      · rw [topName, modulesOf_headD hmodules htype, Option.map_some]
      · exact IsPlaced.nest (defines_declaration hruntime (Token.isName_of_name? htype) s _) _

namespace Builder

/-- Declarations that all succeed are placed one after the other. -/
theorem placed_of_outcomes {runtime : List PlainToken} (hruntime : IsQuiet runtime)
    {specs : List Spec} {tss : List (List PlainToken)}
    (h : specs.map (Spec.outcome runtime) = tss.map .ok) :
    ∃ names, specs.map Spec.topName = names.map some ∧ List.Forall₂ IsPlaced names tss := by
  induction specs generalizing tss with
  | nil =>
      rw [List.map_nil] at h
      rw [List.map_eq_nil_iff.mp h.symm]
      exact ⟨[], rfl, .nil⟩
  | cons s specs ih =>
      cases tss with
      | nil => cases h
      | cons ts tss =>
          rw [List.map_cons, List.map_cons, List.cons.injEq] at h
          obtain ⟨name, hname, hplaced⟩ := Spec.isPlaced_of_outcome hruntime h.1
          obtain ⟨names, hnames, hrest⟩ := ih h.2
          exact ⟨name :: names, by rw [List.map_cons, hname, hnames]; rfl, .cons hplaced hrest⟩

/-- A file is printed from the tokens of its declarations, which are placed in it. -/
theorem placed_of_generate {b : Builder} {source : String} (h : b.generate.answer = .ok source) :
    ∃ (tss : List (List PlainToken)) (names : List String),
      b.generateAll.answer = .ok (tss.map .ok) ∧ source = sourceText tss.flatten ∧
      b.specs.map Spec.topName = names.map some ∧ List.Forall₂ IsPlaced names tss := by
  cases hpath : Grammar.path? b.runtime with
  | none =>
      rw [generate_of_no_path hpath] at h
      cases h
  | some runtime =>
      have hall := generateAll_of_path hpath
      have hlength : b.specs.length = (b.specs.map (Spec.outcome runtime)).length :=
        (List.length_map _).symm
      have hgood : ∀ o ∈ b.specs.map (Spec.outcome runtime), o.isOk = true := by
        intro o ho
        cases hfailed : o.isOk with
        | true => rfl
        | false =>
            rw [generate_of_failure hall hlength ⟨o, ho, hfailed⟩] at h
            cases h
      obtain ⟨tss, htss⟩ := exists_map_ok hgood
      obtain ⟨names, hnames, hplaced⟩ :=
        placed_of_outcomes (Grammar.isQuiet_of_path? hpath) htss
      rw [htss] at hall hlength
      rw [List.length_map] at hlength
      rw [generate_of_all_ok hall hlength] at h
      exact ⟨tss, names, hall, (Except.ok.inj h).symm, hnames, hplaced⟩

/-- **A file has no two definitions of one name in one place iff no two declarations stand under
one name at the top**: the name of the outermost module, or of the type if it is in none. -/
theorem generate_distinct_iff {b : Builder} {source : String}
    (h : b.generate.answer = .ok source) :
    ∃ tss : List (List PlainToken), b.generateAll.answer = .ok (tss.map .ok) ∧
      source = sourceText tss.flatten ∧
      (IsDistinct tss.flatten ↔ (b.specs.map Spec.topName).Nodup) := by
  obtain ⟨tss, names, hall, hsource, hnames, hplaced⟩ := placed_of_generate h
  refine ⟨tss, hall, hsource, ?_⟩
  rw [IsPlaced.isDistinct_iff hplaced, hnames]
  exact (List.nodup_map_iff fun _ _ => Option.some.inj).symm

/-- A module, a module of the same name in another one, and a type in none. -/
theorem generate_distinct_nested :
    let b : Builder := .mk [.inModule (.of "Date" "a") "dates",
      .inModule (.of "Date" "b") "times::dates", .of "Date" "c"] standardRuntime
    ∃ (source : String) (tss : List (List PlainToken)),
      b.generate.answer = .ok source ∧ b.generateAll.answer = .ok (tss.map .ok) ∧
      source = sourceText tss.flatten ∧ IsDistinct tss.flatten := by
  intro b
  obtain ⟨source, hsource⟩ : ∃ source, b.generate.answer = .ok source :=
    exists_of_isOk (by decide +kernel)
  obtain ⟨tss, hall, hprinted, hdistinct⟩ := generate_distinct_iff hsource
  exact ⟨source, tss, hsource, hall, hprinted, hdistinct.mpr (by decide +kernel)⟩

/-- Two types in one module: there is a file, and the module is defined in it twice. -/
theorem generate_same_module :
    let b : Builder :=
      .mk [.inModule (.of "A" "a") "dates", .inModule (.of "B" "b") "dates"] standardRuntime
    ∃ (source : String) (tss : List (List PlainToken)),
      b.generate.answer = .ok source ∧ b.generateAll.answer = .ok (tss.map .ok) ∧
      source = sourceText tss.flatten ∧
      (definitions tss.flatten).map Definition.name = ["dates", "dates"] ∧
      ¬ IsDistinct tss.flatten := by
  intro b
  obtain ⟨source, hsource⟩ : ∃ source, b.generate.answer = .ok source :=
    exists_of_isOk (by decide +kernel)
  obtain ⟨tss, names, hall, hprinted, hnames, hplaced⟩ := placed_of_generate hsource
  have htop : b.specs.map Spec.topName = ["dates", "dates"].map some := by decide +kernel
  have htwice : names = ["dates", "dates"] :=
    List.map_injective_iff.mpr (fun _ _ => Option.some.inj) (hnames.symm.trans htop)
  obtain ⟨ds, hds, hdefined, -⟩ := IsPlaced.flatten hplaced
  refine ⟨source, tss, hsource, hall, hprinted, ?_, ?_⟩
  · rw [hds.definitions_eq, hdefined, htwice]
  · rw [IsPlaced.isDistinct_iff hplaced, htwice]
    decide

end Builder

end CaptureTypes
