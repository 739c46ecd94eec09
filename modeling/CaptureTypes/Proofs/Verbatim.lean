/-
# Under which names a declaration is emitted

The struct and the modules of a declaration bear the names that the given
texts hold.  A text that holds a name need not be one: blanks and comments
around the name are let pass, and they are not emitted.  So a declaration
is emitted under its texts, character for character, iff these are bare
names themselves (`Spec.emitted_names`), and there are others, for which the
emitted names differ from the given ones.  A text that holds no name is
refused.
-/
import CaptureTypes.Proofs.Padding
import CaptureTypes.Proofs.Surface
import CaptureTypes.Proofs.Violation

namespace CaptureTypes

open Emission Emission.Piece

/-! ## Names read off the tokens -/

/-- The names of the modules around a declaration, the outermost first. -/
def modulesAround : List PlainToken → List String
  | [Token.word _ "pub", Token.word _ "mod", Token.word _ name, Token.group _ .brace inner] =>
    name :: modulesAround inner
  | _ => []

theorem modulesAround_module (name : String) (inner : List PlainToken) :
    modulesAround [Token.word () "pub", Token.word () "mod", Token.word () name,
      Token.group () .brace inner] = name :: modulesAround inner := by
  rw [modulesAround]

theorem modulesAround_sign (c : Char) (joint : Bool) (rest : List PlainToken) :
    modulesAround (Token.sign () c joint :: rest) = [] := by
  unfold modulesAround
  rfl

theorem modulesAround_nest {runtime : List PlainToken} (modules : List String) (items : List Item) :
    modulesAround (fillAll runtime (Item.allPieces (Item.nest modules items)))
      = modules ++ modulesAround (fillAll runtime (Item.allPieces items)) := by
  induction modules with
  | nil => rfl
  | cons name modules ih => exact (modulesAround_module name _).trans (congrArg (name :: ·) ih)

/-- The modules around a declaration are those of its names. -/
theorem modulesAround_tokensWith (s : Spec) (names : Names) :
    modulesAround (s.tokensWith names .standard) = names.modules := by
  have hdeclaration : modulesAround (fillAll usualRuntime (Item.allPieces
      (declaration names.typeName s names.accessors [] [.word "pub"]))) = [] :=
    modulesAround_sign _ _ _
  have hnest := @modulesAround_nest usualRuntime names.modules
    (declaration names.typeName s names.accessors [] [.word "pub"])
  rw [hdeclaration, List.append_nil] at hnest
  exact hnest

/-! ## Names and the texts that hold them -/

/-- Checked modules bear the names that the segments hold. -/
theorem holds_of_modulesOf {segments modules : List String} (h : modulesOf segments = .ok modules) :
    List.Forall₂ Token.Holds segments modules := by
  induction segments generalizing modules with
  | nil =>
      cases h
      exact .nil
  | cons segment rest ih =>
      rw [modulesOf_cons] at h
      split at h
      · cases h
      · rename_i name hname
        split at h
        · cases h
        · rename_i names hnames
          cases h
          exact .cons (Token.name?_eq_some_iff.mp hname) (ih hnames)

theorem Token.isSome_name?_iff {text : String} :
    (Token.name? text).isSome ↔ ∃ name, Token.Holds text name := by
  rw [Option.isSome_iff_exists]
  exact exists_congr fun _ => Token.name?_eq_some_iff

/-- The name that a text holds is the text iff that is a bare name. -/
theorem Token.Holds.eq_iff {text name : String} (h : Token.Holds text name) :
    name = text ↔ Token.IsBareName text := by
  constructor
  · rintro rfl
    exact h.bare
  · intro hbare
    have hself : Token.name? text = some text := Token.name?_self_iff.mpr hbare
    exact Option.some.inj ((Token.name?_eq_some_iff.mpr h).symm.trans hself)

theorem eq_iff_of_holds {segments modules : List String}
    (h : List.Forall₂ Token.Holds segments modules) :
    modules = segments ↔ ∀ segment ∈ segments, Token.IsBareName segment := by
  induction h with
  | nil => exact iff_of_true rfl nofun
  | cons hfirst _ ih => rw [List.cons.injEq, hfirst.eq_iff, ih, List.forall_mem_cons]

/-! ## Declarations -/

namespace Spec

/-- No group is refused as a name of the type or of a module. -/
theorem not_firstObjection_of_name {gs : List Group} {text : String} :
    ¬ FirstObjection gs (.invalidTypeName text) ∧ ¬ FirstObjection gs (.invalidModulePath text) := by
  constructor
  · rintro ⟨j, -, hobjection, -⟩
    cases hobjection
  · rintro ⟨j, -, hobjection, -⟩
    cases hobjection

section
variable {s : Spec} {c : Pattern.Compiled} (hcompile : s.recipe.compile = .ok c)
include hcompile

/-- The name of the type is refused iff it holds none. -/
theorem generate_invalidTypeName_iff :
    s.generate.answer = .error (.invalidTypeName s.typeName) ↔
      ∀ name, ¬ Token.Holds s.typeName name := by
  rw [← Token.name?_eq_none_iff]
  constructor
  · intro h
    have hviolates := violates_of_error h
    generalize he : GenerateError.invalidTypeName s.typeName = e at hviolates
    cases hviolates with
    | pattern => cases he
    | typeName _ hname => exact hname
    | modulePath => cases he
    | accessor _ _ _ hgroups => exact absurd (he ▸ hgroups) not_firstObjection_of_name.1
  · intro hname
    exact error_of_violates .standard (.typeName hcompile hname)

/-- A module is refused iff it is the first that holds no name. -/
theorem generate_invalidModulePath_iff (hname : ∃ name, Token.Holds s.typeName name)
    (segment : String) :
    s.generate.answer = .error (.invalidModulePath segment) ↔
      ∃ before after, s.modulePath = before ++ segment :: after ∧
        (∀ x ∈ before, ∃ name, Token.Holds x name) ∧ ∀ name, ¬ Token.Holds segment name := by
  simp only [← Token.isSome_name?_iff, ← Token.name?_eq_none_iff]
  constructor
  · intro h
    have hviolates := violates_of_error h
    generalize he : GenerateError.invalidModulePath segment = e at hviolates
    cases hviolates with
    | pattern => cases he
    | typeName => cases he
    | modulePath _ _ hpath hbefore hsegment =>
        cases he
        exact ⟨_, _, hpath, hbefore, hsegment⟩
    | accessor _ _ _ hgroups => exact absurd (he ▸ hgroups) not_firstObjection_of_name.2
  · rintro ⟨before, after, hpath, hbefore, hsegment⟩
    have htype : (Token.name? s.typeName).isSome := Token.isSome_name?_iff.mpr hname
    exact error_of_violates .standard (.modulePath hcompile htype hpath hbefore hsegment)

end

/-- **Under which names a declaration is emitted.**  A declaration that is generated has the
name that the given text holds, for its type and for each of its modules.  It is the given text
iff that is a bare name; blanks and comments around a name are let pass.  If the pattern
compiles, the name of the type is refused iff the text holds none, and a module iff it is the
first whose text holds none. -/
theorem emitted_names (s : Spec) :
    (∀ ts, s.generate.answer = .ok ts →
      ∃ d, declared? ts = some d ∧
        Token.Holds s.typeName d.typeName ∧
        (d.typeName = s.typeName ↔ Token.IsBareName s.typeName) ∧
        List.Forall₂ Token.Holds s.modulePath (modulesAround ts) ∧
        (modulesAround ts = s.modulePath ↔
          ∀ segment ∈ s.modulePath, Token.IsBareName segment)) ∧
    ∀ c, s.recipe.compile = .ok c →
      (s.generate.answer = .error (.invalidTypeName s.typeName) ↔
        ∀ name, ¬ Token.Holds s.typeName name) ∧
      ((∃ name, Token.Holds s.typeName name) → ∀ segment,
        (s.generate.answer = .error (.invalidModulePath segment) ↔
          ∃ before after, s.modulePath = before ++ segment :: after ∧
            (∀ x ∈ before, ∃ name, Token.Holds x name) ∧ ∀ name, ¬ Token.Holds segment name)) := by
  refine ⟨fun ts hts => ?_, fun c hcompile => ⟨generate_invalidTypeName_iff hcompile,
    generate_invalidModulePath_iff hcompile⟩⟩
  obtain ⟨r, names, -, hnames, rfl⟩ := generateWith_ok_iff.mp hts
  obtain ⟨htype, hmodules, -⟩ := namesWith_ok_iff.mp hnames
  have hholds : Token.Holds s.typeName names.typeName := Token.name?_eq_some_iff.mp htype
  have hall : List.Forall₂ Token.Holds s.modulePath (modulesAround (s.tokensWith names .standard)) := by
    rw [modulesAround_tokensWith]
    exact holds_of_modulesOf hmodules
  exact ⟨_, declared?_tokensWith s names, hholds, hholds.eq_iff, hall, eq_iff_of_holds hall⟩

/-- A type and a module with blanks around their names: neither is refused, and both are emitted
without the blanks. -/
theorem emitted_names_padded :
    let s : Spec := ⟨" A ", "a", .standard, ["/* of dates */ m\n"]⟩
    ∃ ts d, s.generate.answer = .ok ts ∧ declared? ts = some d ∧
      d.typeName = "A" ∧ d.typeName ≠ s.typeName ∧
      modulesAround ts = ["m"] ∧ modulesAround ts ≠ s.modulePath ∧
      ¬ Token.IsBareName s.typeName ∧ ∀ segment ∈ s.modulePath, ¬ Token.IsBareName segment := by
  intro s
  have htype : Token.name? s.typeName = some "A" := by decide +kernel
  have hmodules : modulesOf s.modulePath = .ok ["m"] := by decide +kernel
  have hsegment : Token.name? "/* of dates */ m\n" = some "m" := by decide +kernel
  obtain ⟨ts, hts⟩ : ∃ ts, s.generate.answer = .ok ts := exists_of_isOk (by decide +kernel)
  obtain ⟨r, names, -, hnames, rfl⟩ := generateWith_ok_iff.mp hts
  obtain ⟨htype', hmodules', -⟩ := namesWith_ok_iff.mp hnames
  have hA : names.typeName = "A" := Option.some.inj (htype'.symm.trans htype)
  have hm : modulesAround (s.tokensWith names .standard) = ["m"] := by
    rw [modulesAround_tokensWith]
    exact Except.ok.inj (hmodules'.symm.trans hmodules)
  have hother : "A" ≠ s.typeName ∧ ["m"] ≠ s.modulePath := by decide
  refine ⟨_, _, hts, declared?_tokensWith s names, hA, fun h => hother.1 (hA.symm.trans h), hm,
    fun h => hother.2 (hm.symm.trans h), ?_, ?_⟩
  · rw [← Token.name?_self_iff, htype]
    decide
  · refine List.forall_mem_singleton.mpr ?_
    rw [← Token.name?_self_iff, hsegment]
    decide

end Spec

end CaptureTypes
