/-
# Three ways to the same declaration

A declaration can be generated directly, as one of a builder, or from an
attributed placeholder.  The builder reads its path to the runtime from a
text, the attribute reads the pattern from a literal, the options from a
list of flags and the name from the text of a struct; all of them arrive at
the same declaration in the same surroundings, and so at the same tokens or
the same error.
-/
import CaptureTypes.Expansion
import CaptureTypes.Proofs.FlagList
import CaptureTypes.Proofs.Isolation
import CaptureTypes.Proofs.Lexing
import CaptureTypes.Proofs.UnitStruct

namespace CaptureTypes

/-- How the attribute reports that nothing is generated: at its pattern. -/
def Rejection.atPattern (place : Extent) (e : GenerateError) : Rejection :=
  ⟨.expansion, ⟨.generation e, place⟩⟩

/-- The surroundings of a placeholder with attributes and visibility. -/
def Surroundings.keeping (attributes visibility : List PlainToken) : Surroundings :=
  { Surroundings.standard with visibility := visibility, attributes := attributes }

/-! ## The builder -/

theorem path?_standardRuntime :
    Grammar.path? standardRuntime = some Surroundings.standard.runtime := by
  decide +kernel

theorem Spec.outcome_standard (s : Spec) :
    s.outcome Surroundings.standard.runtime = s.generate.answer :=
  (s.answer_generateWith Surroundings.standard.runtime).symm

/-- A builder has for each declaration what is generated for it alone. -/
theorem Builder.generateAll_standard (before after : List Spec) (s : Spec) :
    ∃ outcomes, (Builder.mk (before ++ s :: after) standardRuntime).generateAll.answer = .ok outcomes ∧
      outcomes[before.length]? = some s.generate.answer := by
  refine ⟨_, generateAll_of_path path?_standardRuntime, ?_⟩
  rw [List.getElem?_map, List.getElem?_append_right (Nat.le_refl _), Nat.sub_self,
    List.getElem?_cons_zero, Option.map_some, s.outcome_standard]

/-! ## The attribute -/

/-- A placeholder that is fit is expanded to its declaration. -/
theorem expand_of_parts {arguments item name pattern : String} {place : Extent} {o : Options}
    {attributes visibility : List PlainToken}
    (harguments : Grammar.arguments? arguments = .ok ⟨pattern, place, o⟩)
    (hitem : Grammar.placeholder? item = .ok ⟨attributes, visibility, name, none, false, .unit⟩) :
    (expand arguments item).answer
      = ((Spec.mk name pattern o []).generateWith (.keeping attributes visibility)).answer.mapError
          (Rejection.atPattern place) := by
  have hfit : (Grammar.Placeholder.mk attributes visibility name none false .unit).objection?
      = none := rfl
  unfold expand
  rw [harguments, hitem]
  simp only [Grammar.Arguments.expand, hfit, Logged.map, Grammar.Arguments.spec, Spec.of,
    Spec.withOptions, Grammar.Placeholder.surroundings]
  rw [Surroundings.keeping]
  split
  · rename_i tokens htokens
    split at htokens
    · rename_i found hfound
      cases htokens
      rw [hfound]
      rfl
    · cases htokens
  · rename_i c hc
    split at hc
    · cases hc
    · rename_i e he
      cases hc
      rw [he]
      rfl

/-- Whether something is generated, and what goes wrong, is not up to what is kept. -/
theorem Spec.error_iff_generate (s : Spec) (around : Surroundings) (e : GenerateError) :
    (s.generateWith around).answer = .error e ↔ s.generate.answer = .error e :=
  generateWith_error_iff.trans generateWith_error_iff.symm

/-- **The hosts agree.**  Take a name, a pattern and options, and the declaration `s` of them in
no module.  A builder with the usual path to the runtime has for `s`, wherever it stands among
others, what is generated for it alone.  The attribute, given a literal that denotes the pattern
and flags that amount to the options, has the same for a public unit struct of that name: the
same tokens, or the same error, reported at the pattern in the error's own words.  If other
attributes and another visibility are written before the struct, it has what is generated in the
surroundings that keep just these, and these decide neither whether something is generated nor
what goes wrong. -/
theorem Spec.hosts_agree {name : String} (hname : Token.name? name = some name)
    (pattern : String) (o : Options) :
    let s : Spec := ⟨name, pattern, o, []⟩
    (∀ before after : List Spec, ∃ outcomes,
      (Builder.mk (before ++ s :: after) standardRuntime).generateAll.answer = .ok outcomes ∧
      outcomes[before.length]? = some s.generate.answer) ∧
    (∀ {arguments literal : String} {place : Extent} {flagTokens : List SourceToken}
      {fs : List Flag}, Token.readAll arguments = .ok (.literal place literal :: flagTokens) →
      Token.Denotes literal pattern → SpellsFlags flagTokens fs → Flag.options fs = o →
      (expand arguments ("pub struct " ++ name ++ ";")).answer
        = s.generate.answer.mapError (Rejection.atPattern place) ∧
      ∀ {item : String} {as vs : List SourceToken} {attributes visibility : List PlainToken}
        {p q r : Extent} {joint : Bool},
        Token.readAll item
          = .ok (as ++ (vs ++ [.word p "struct", .word q name, .sign r ';' joint])) →
        Grammar.readTokens Grammar.outerAttributes as = .ok attributes →
        Grammar.readTokens Grammar.visibility vs = .ok visibility →
        (expand arguments item).answer
          = (s.generateWith (.keeping attributes visibility)).answer.mapError
              (Rejection.atPattern place)) ∧
    (∀ place e, (Rejection.atPattern place e).complaint.cause.message = e.message) ∧
    (∀ around e, (s.generateWith around).answer = .error e ↔ s.generate.answer = .error e) := by
  intro s
  obtain ⟨-, -, hisName⟩ := Token.word?_of_name? hname
  refine ⟨fun before after => Builder.generateAll_standard before after s, ?_, fun _ _ => rfl,
    s.error_iff_generate⟩
  intro arguments literal place flagTokens fs harguments hliteral hflags hoptions
  have hread : Grammar.arguments? arguments = .ok ⟨pattern, place, o⟩ :=
    hoptions ▸ Grammar.arguments?_of_spelled harguments hliteral hflags
  have hstruct : ∀ {item : String} {as vs : List SourceToken}
      {attributes visibility : List PlainToken} {p q r : Extent} {joint : Bool},
      Token.readAll item
        = .ok (as ++ (vs ++ [.word p "struct", .word q name, .sign r ';' joint])) →
      Grammar.readTokens Grammar.outerAttributes as = .ok attributes →
      Grammar.readTokens Grammar.visibility vs = .ok visibility →
      Grammar.placeholder? item = .ok ⟨attributes, visibility, name, none, false, .unit⟩ := by
    intro item as vs attributes visibility p q r joint hitem has hvs
    rw [Grammar.placeholder?, Grammar.readText, hitem]
    exact Grammar.readTokens_placeholder has hvs hisName
  constructor
  · obtain ⟨p, q, r, e, htokens⟩ := Token.readAll_struct hname
    have hpub : Grammar.readTokens Grammar.visibility [.word p "pub"] = .ok [.word "pub"] := rfl
    have hitem : Token.readAll ("pub struct " ++ name ++ ";")
        = .ok ([] ++ ([.word p "pub"] ++ [.word q "struct", .word r name, .sign e ';' false])) :=
      htokens
    exact expand_of_parts hread (hstruct hitem rfl hpub)
  · intro item as vs attributes visibility p q r joint hitem has hvs
    exact expand_of_parts hread (hstruct hitem has hvs)

/-- A name that is a keyword without its mark, a literal with escapes, and a flag with a value. -/
theorem Spec.hosts_agree_raw :
    let s : Spec := ⟨"r#type", "A\\d+", Options.standard.set .ignoreCase true, []⟩
    let arguments := "\"\\x41\\\\d+\", ignore_case, unicode = true,"
    Token.name? "r#type" = some "r#type" ∧ ∃ place attributes visibility,
      (expand arguments "pub struct r#type;").answer
        = s.generate.answer.mapError (Rejection.atPattern place) ∧
      (expand arguments "#[cfg(test)] pub(crate) struct r#type;").answer
        = (s.generateWith (.keeping attributes visibility)).answer.mapError
            (Rejection.atPattern place) := by
  intro s arguments
  let place : Extent := ⟨1, 0, 1, 10⟩
  let flagTokens : List SourceToken :=
    [.sign ⟨1, 10, 1, 11⟩ ',' false, .word ⟨1, 12, 1, 23⟩ "ignore_case",
     .sign ⟨1, 23, 1, 24⟩ ',' false, .word ⟨1, 25, 1, 32⟩ "unicode",
     .sign ⟨1, 33, 1, 34⟩ '=' false, .word ⟨1, 35, 1, 39⟩ "true", .sign ⟨1, 39, 1, 40⟩ ',' false]
  let as : List SourceToken :=
    [.sign ⟨1, 0, 1, 1⟩ '#' false, .group ⟨1, 1, 1, 12⟩ .bracket
      [.word ⟨1, 2, 1, 5⟩ "cfg", .group ⟨1, 5, 1, 11⟩ .parenthesis [.word ⟨1, 6, 1, 10⟩ "test"]]]
  let vs : List SourceToken :=
    [.word ⟨1, 13, 1, 16⟩ "pub", .group ⟨1, 16, 1, 23⟩ .parenthesis [.word ⟨1, 17, 1, 22⟩ "crate"]]
  have hname : Token.name? "r#type" = some "r#type" := by decide +kernel
  have harguments : Token.readAll arguments
      = .ok (.literal place "\"\\x41\\\\d+\"" :: flagTokens) := by
    decide +kernel
  have hliteral : Token.Denotes "\"\\x41\\\\d+\"" "A\\d+" := by
    have hspells : Token.Spells ['\\', 'x', '4', '1', '\\', '\\', 'd', '+', '"']
        ['A', '\\', 'd', '+'] := by
      have h4 : Token.hexValue? '4' = some 4 := rfl
      have h1 : Token.hexValue? '1' = some 1 := rfl
      refine .pair h4 (by decide) h1 (.letter (by decide) ?_)
      exact .plain (by decide) (.plain (by decide) .close)
    have hpattern : "A\\d+".toList = ['A', '\\', 'd', '+'] := by decide
    exact .escaped (by decide) (hpattern ▸ hspells)
  have hflags : SpellsFlags flagTokens [⟨.ignoreCase, none⟩, ⟨.unicode, some true⟩] :=
    .bare (t := .ignoreCase) (.valued (t := .unicode) (b := true) .comma)
  have hitem : Token.readAll "#[cfg(test)] pub(crate) struct r#type;"
      = .ok (as ++ (vs ++ [.word ⟨1, 24, 1, 30⟩ "struct", .word ⟨1, 31, 1, 37⟩ "r#type",
          .sign ⟨1, 37, 1, 38⟩ ';' false])) := by
    decide +kernel
  obtain ⟨attributes, has⟩ : ∃ attributes,
      Grammar.readTokens Grammar.outerAttributes as = .ok attributes :=
    exists_of_isOk (by decide +kernel)
  obtain ⟨visibility, hvs⟩ : ∃ visibility,
      Grammar.readTokens Grammar.visibility vs = .ok visibility :=
    exists_of_isOk (by decide +kernel)
  obtain ⟨-, hexpand, -⟩ := Spec.hosts_agree hname "A\\d+" (Options.standard.set .ignoreCase true)
  obtain ⟨hpublic, hkept⟩ := hexpand harguments hliteral hflags rfl
  exact ⟨hname, place, attributes, visibility, hpublic, hkept hitem has hvs⟩

end CaptureTypes
