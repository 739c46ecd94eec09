/-
# Where a rejection points

A rejected attribute points at what is wrong.  An unknown flag is reported
where its name stands.  Of a struct that is no fit placeholder it is the
group of the fields, or else the generics from one angle bracket to the
other; and what goes wrong in generating is reported where the literal of
the pattern stands.  So `PointsAtFault` says, and of all that the extent
is not empty.

One kind of struct is left out (`HasOnlyWhere`): those with nothing wrong but
a `where` clause.  The extent of generics is that of their parameters, of
which there are none, and so the complaint points nowhere, although the
clause stands in the text.
-/
import CaptureTypes.Expansion
import CaptureTypes.Proofs.ArgumentGrammar
import CaptureTypes.Proofs.StructTokens
import CaptureTypes.Proofs.TokenPlace

namespace CaptureTypes

open Token (StandsAt withoutMark readAll)

namespace Grammar

/-! ## Where the arguments stand -/

theorem readAll_of_arguments? {text : String} {a : Arguments} (h : arguments? text = .ok a) :
    ∃ ts, readAll text = .ok ts ∧ Arguments.ofTokens ts = .ok a := by
  unfold arguments? at h
  split at h
  · cases h
  · exact ⟨_, ‹_›, h⟩

/-- The pattern is reported where its literal stands. -/
theorem standsAt_pattern {text : String} {a : Arguments} (h : arguments? text = .ok a) :
    ∃ s, Token.quoted? s = some a.pattern ∧
      StandsAt (withoutMark text.toList) a.extent s.toList := by
  obtain ⟨ts, hts, ha⟩ := readAll_of_arguments? h
  obtain ⟨fs, ⟨s, rest, rfl, hpattern, -⟩, -⟩ := ofTokens_eq_ok_iff.mp ha
  exact ⟨s, hpattern, Token.standsAt_of_literal hts List.mem_cons_self⟩

theorem SpellsValue.suffix {ts rest : List SourceToken} {value : Option Bool}
    (h : SpellsValue ts value rest) : rest <:+ ts := by
  cases h with
  | none => exact List.suffix_rfl
  | some => exact List.suffix_append [_, _] _

theorem MeetsUnknown.mem {ts : List SourceToken} {name : String} {e : Extent}
    (h : MeetsUnknown name e ts) : name ∉ Toggle.names ∧ .word e name ∈ ts := by
  induction h with
  | here _ hname _ => exact ⟨hname, List.mem_cons_of_mem _ List.mem_cons_self⟩
  | after hvalue _ ih =>
      exact ⟨ih.1, List.mem_cons_of_mem _ (List.mem_cons_of_mem _ (hvalue.suffix.mem ih.2))⟩

/-- An unknown flag is met in the tokens of the arguments, after the literal of the pattern. -/
theorem meetsUnknown_of_arguments? {text name : String} {e : Extent}
    (h : arguments? text = .error ⟨.unknownOption name, e⟩) :
    ∃ p s rest, readAll text = .ok (.literal p s :: rest) ∧ MeetsUnknown name e rest := by
  unfold arguments? at h
  split at h
  · cases h
  · rename_i ts hts
    obtain ⟨p, s, pattern, rest, rfl, -, hmeets⟩ := ofTokens_eq_unknown_iff.mp h
    exact ⟨p, s, rest, hts, hmeets⟩

/-! ## Where the parts of a struct stand -/

theorem readAll_of_placeholder? {text : String} {p : Placeholder}
    (h : placeholder? text = .ok p) : ∃ ts, readAll text = .ok ts ∧ SpellsStruct ts p := by
  unfold placeholder? readText at h
  split at h
  · cases h
  · exact ⟨_, ‹_›, spells_of_readTokens h⟩

section

variable {text : String} {ts : List SourceToken} {p : Placeholder} {e : Extent}

/-- Fields are reported where their group stands. -/
theorem standsAt_fields (hts : readAll text = .ok ts) (h : SpellsStruct ts p)
    (he : p.fields.extent? = some e) :
    ∃ a b d inside, Token.opens? a = some d ∧ Token.closes? b = some d ∧
      StandsAt (withoutMark text.toList) e (a :: (inside ++ [b])) := by
  obtain ⟨d, inner, hd, hmem⟩ := h.group_mem he
  obtain ⟨a, b, inside, ha, hb, htext⟩ := Token.standsAt_of_group hd hts hmem
  exact ⟨a, b, d, inside, ha, hb, htext⟩

/-- Parameters are reported from one angle bracket to the other. -/
theorem standsAt_parameters (hts : readAll text = .ok ts) (h : SpellsStruct ts p)
    (he : p.parameters = some e) :
    ∃ inside, StandsAt (withoutMark text.toList) e ('<' :: (inside ++ ['>'])) := by
  obtain ⟨us, f, a, inner, g, b, vs, rfl, rfl⟩ := h.parameters_eq he
  exact Token.standsAt_of_signs (by decide) (by decide) hts

end

/-! ## What is reported -/

/-- A complaint about a placeholder points at what is wrong with it: at the fields if there are
any, or else at the generics, or else, as nothing is wrong with the struct, at the pattern. -/
inductive PointsAtFault (arguments item : List Char) (a : Arguments) (p : Placeholder) :
    Complaint → Prop
  | fields {e : Extent} {b c : Char} {d : Delimiter} {inside : List Char} :
      p.fields.extent? = some e → Token.opens? b = some d → Token.closes? c = some d →
      StandsAt item e (b :: (inside ++ [c])) → PointsAtFault arguments item a p ⟨.notUnit, e⟩
  | generics {e : Extent} {inside : List Char} :
      p.fields = .unit → p.parameters = some e →
      StandsAt item e ('<' :: (inside ++ ['>'])) →
      PointsAtFault arguments item a p ⟨.declaresGenerics, e⟩
  | pattern {error : GenerateError} {s : String} :
      p.fields = .unit → p.parameters = none → p.hasWhere = false →
      ((a.spec p).generateWith p.surroundings).answer = .error error →
      Token.quoted? s = some a.pattern → StandsAt arguments a.extent s.toList →
      PointsAtFault arguments item a p ⟨.generation error, a.extent⟩

/-- What is at fault is not empty. -/
theorem PointsAtFault.not_isEmpty {arguments item : List Char} {a : Arguments} {p : Placeholder}
    {c : Complaint} (h : PointsAtFault arguments item a p c) : ¬ c.extent.IsEmpty := by
  cases h with
  | fields _ _ _ hstands => exact hstands.not_isEmpty (List.cons_ne_nil _ _)
  | generics _ _ hstands => exact hstands.not_isEmpty (List.cons_ne_nil _ _)
  | pattern _ _ _ _ hquoted hstands =>
      refine hstands.not_isEmpty fun hs => ?_
      rw [Token.quoted?, hs] at hquoted
      cases hquoted

/-- A unit struct with a `where` clause, but without parameters. -/
def Placeholder.HasOnlyWhere (p : Placeholder) : Prop :=
  p.fields = .unit ∧ p.parameters = none ∧ p.hasWhere = true

theorem Fields.eq_unit_of_extent? {fs : Fields} (h : fs.extent? = none) : fs = .unit := by
  cases fs with
  | unit => rfl
  | tuple | named => cases h

/-- A struct is fit to be a placeholder iff it is a unit struct without generics. -/
theorem Placeholder.objection?_eq_none_iff {p : Placeholder} :
    p.objection? = none ↔ p.fields = .unit ∧ p.parameters = none ∧ p.hasWhere = false := by
  unfold objection?
  cases hfields : p.fields with
  | tuple | named => simp [Fields.extent?]
  | unit => cases hparameters : p.parameters <;> cases hwhere : p.hasWhere <;> simp [Fields.extent?]

/-- Why an attributed placeholder is not expanded, and where that is reported. -/
theorem Arguments.expand_eq_error {arguments item : String} {a : Arguments} {p : Placeholder}
    {c : Complaint} (ha : arguments? arguments = .ok a) (hp : placeholder? item = .ok p)
    (h : (a.expand p).answer = .error c) :
    PointsAtFault (withoutMark arguments.toList) (withoutMark item.toList) a p c ∨
      p.HasOnlyWhere ∧ c = ⟨.declaresGenerics, .nowhere⟩ := by
  obtain ⟨ts, hts, hspells⟩ := readAll_of_placeholder? hp
  cases hfields : p.fields.extent? with
  | some e =>
      obtain ⟨b, d, _, inside, hb, hd, hstands⟩ := standsAt_fields hts hspells hfields
      simp only [expand, Placeholder.objection?, hfields, Logged.quiet] at h
      cases h
      exact .inl (.fields hfields hb hd hstands)
  | none =>
      have hunit := Fields.eq_unit_of_extent? hfields
      cases hparameters : p.parameters with
      | some e =>
          obtain ⟨inside, hstands⟩ := standsAt_parameters hts hspells hparameters
          simp only [expand, Placeholder.objection?, hfields, hparameters, Logged.quiet] at h
          cases h
          exact .inl (.generics hunit hparameters hstands)
      | none =>
          cases hwhere : p.hasWhere with
          | true =>
              simp only [expand, Placeholder.objection?, hfields, hparameters, hwhere,
                Logged.quiet] at h
              cases h
              exact .inr ⟨⟨hunit, hparameters, hwhere⟩, rfl⟩
          | false =>
              obtain ⟨s, hs, hstands⟩ := standsAt_pattern ha
              have hfit := Placeholder.objection?_eq_none_iff.mpr ⟨hunit, hparameters, hwhere⟩
              simp only [expand, hfit, Logged.map] at h
              cases hgenerate : ((a.spec p).generateWith p.surroundings).answer with
              | ok tokens =>
                  rw [hgenerate] at h
                  cases h
              | error error =>
                  rw [hgenerate] at h
                  cases h
                  exact .inl (.pattern hunit hparameters hwhere hgenerate hs hstands)

section

variable {arguments item : String} {a : Arguments} {p : Placeholder}

/-- Arguments and a struct that are well-formed are only rejected in expanding. -/
theorem answer_expand (ha : arguments? arguments = .ok a) (hp : placeholder? item = .ok p) :
    (expand arguments item).answer = (a.expand p).answer.mapError (⟨.expansion, ·⟩) := by
  simp only [expand, ha, hp, Logged.map]
  cases (a.expand p).answer <;> rfl

theorem expand_eq_error_iff (ha : arguments? arguments = .ok a) (hp : placeholder? item = .ok p)
    {r : Rejection} : (expand arguments item).answer = .error r ↔
      r.stage = .expansion ∧ (a.expand p).answer = .error r.complaint := by
  obtain ⟨stage, c⟩ := r
  rw [answer_expand ha hp]
  cases (a.expand p).answer with
  | ok tokens => simp [Except.mapError]
  | error c' => simp [Except.mapError, eq_comm]

/-- What is expanded is fit to be a placeholder, and its declaration is generated. -/
theorem expand_isOk_iff (ha : arguments? arguments = .ok a) (hp : placeholder? item = .ok p) :
    (∃ tokens, (expand arguments item).answer = .ok tokens) ↔
      p.fields = .unit ∧ p.parameters = none ∧ p.hasWhere = false ∧
        ∃ tokens, ((a.spec p).generateWith p.surroundings).answer = .ok tokens := by
  rw [answer_expand ha hp, Arguments.expand]
  cases hfit : p.objection? with
  | some c =>
      constructor
      · rintro ⟨tokens, h⟩
        cases h
      · rintro ⟨hunit, hparameters, hwhere, -⟩
        rw [Placeholder.objection?_eq_none_iff.mpr ⟨hunit, hparameters, hwhere⟩] at hfit
        cases hfit
  | none =>
      obtain ⟨hunit, hparameters, hwhere⟩ := Placeholder.objection?_eq_none_iff.mp hfit
      simp only [hunit, hparameters, hwhere, true_and, Logged.map]
      cases ((a.spec p).generateWith p.surroundings).answer with
      | ok tokens => exact ⟨fun _ => ⟨tokens, rfl⟩, fun _ => ⟨tokens, rfl⟩⟩
      | error error =>
          constructor
          · rintro ⟨tokens, h⟩
            cases h
          · rintro ⟨tokens, h⟩
            cases h

end

end Grammar

open Grammar

theorem exists_of_map {ε α β : Type} {x : Except ε α} {f : α → β} {b : β}
    (h : x.map f = .ok b) : ∃ a, x = .ok a ∧ f a = b := by
  cases x with
  | error e => cases h
  | ok a => exact ⟨a, rfl, Except.ok.inj h⟩

/-- **Rejections point at what is at fault.**  An unknown flag is reported at its own token, the
first among the flags whose name no toggle has, and the name stands there in the text.
Arguments and a struct that are well-formed are expanded iff it is a unit struct without generics
and its declaration is generated.  Otherwise what is reported is the fields of the struct; if
there are none, its generics; and if there are none of these either, the pattern.  All of these
places are not empty.  Only a struct with nothing but a `where` clause too much is reported
nowhere, though the clause stands in the text. -/
theorem rejections_point_at_fault (arguments item : String) :
    (∀ name e, arguments? arguments = .error ⟨.unknownOption name, e⟩ →
      name ∉ Toggle.names ∧
        (∃ p s rest, readAll arguments = .ok (.literal p s :: rest) ∧ MeetsUnknown name e rest ∧
          .word e name ∈ rest) ∧
        StandsAt (withoutMark arguments.toList) e name.toList ∧ ¬ e.IsEmpty) ∧
    ∀ a p, arguments? arguments = .ok a → placeholder? item = .ok p →
      (∃ ts, readAll item = .ok ts ∧ SpellsStruct ts p) ∧
      ((∃ tokens, (expand arguments item).answer = .ok tokens) ↔
        p.fields = .unit ∧ p.parameters = none ∧ p.hasWhere = false ∧
          ∃ tokens, ((a.spec p).generateWith p.surroundings).answer = .ok tokens) ∧
      ∀ r, (expand arguments item).answer = .error r →
        r.stage = .expansion ∧
        (PointsAtFault (withoutMark arguments.toList) (withoutMark item.toList) a p r.complaint ∧
            ¬ r.complaint.extent.IsEmpty ∨
          p.HasOnlyWhere ∧ r.complaint = ⟨.declaresGenerics, .nowhere⟩ ∧
            ∃ e, StandsAt (withoutMark item.toList) e "where".toList) := by
  refine ⟨fun name e h => ?_, fun a p ha hp =>
    ⟨readAll_of_placeholder? hp, expand_isOk_iff ha hp, fun r h => ?_⟩⟩
  · obtain ⟨q, s, rest, htokens, hmeets⟩ := meetsUnknown_of_arguments? h
    obtain ⟨hname, hmem⟩ := hmeets.mem
    obtain ⟨hne, hstands⟩ := Token.standsAt_of_word htokens (List.mem_cons_of_mem _ hmem)
    exact ⟨hname, ⟨q, s, rest, htokens, hmeets, hmem⟩, hstands, hstands.not_isEmpty hne⟩
  · obtain ⟨hstage, h⟩ := (expand_eq_error_iff ha hp).mp h
    refine ⟨hstage, ?_⟩
    rcases Arguments.expand_eq_error ha hp h with hfault | ⟨hwhere, hnowhere⟩
    · exact .inl ⟨hfault, hfault.not_isEmpty⟩
    · obtain ⟨ts, hts, hspells⟩ := readAll_of_placeholder? hp
      obtain ⟨e, hmem⟩ := hspells.where_mem hwhere.2.2
      exact .inr ⟨hwhere, hnowhere, e, (Token.standsAt_of_word hts hmem).2⟩

/-- A misspelt flag, and a struct with generics and fields, of which the fields are reported. -/
theorem rejections_point_at_fault_tuple :
    let misspelt := "\"a\", ignorecase"
    let item := "struct A<T>(T);"
    arguments? misspelt = .error ⟨.unknownOption "ignorecase", ⟨1, 5, 1, 15⟩⟩ ∧
    (∃ p s rest, readAll misspelt = .ok (.literal p s :: rest) ∧
      MeetsUnknown "ignorecase" ⟨1, 5, 1, 15⟩ rest ∧ .word ⟨1, 5, 1, 15⟩ "ignorecase" ∈ rest) ∧
    StandsAt (withoutMark misspelt.toList) ⟨1, 5, 1, 15⟩ "ignorecase".toList ∧
    ∃ a p, arguments? "\"a\"" = .ok a ∧ placeholder? item = .ok p ∧
      (expand "\"a\"" item).answer = .error ⟨.expansion, ⟨.notUnit, ⟨1, 11, 1, 14⟩⟩⟩ ∧
      PointsAtFault (withoutMark "\"a\"".toList) (withoutMark item.toList) a p
        ⟨.notUnit, ⟨1, 11, 1, 14⟩⟩ := by
  intro misspelt item
  have hunknown : arguments? misspelt = .error ⟨.unknownOption "ignorecase", ⟨1, 5, 1, 15⟩⟩ := by
    decide +kernel
  have harguments : arguments? "\"a\"" = .ok ⟨"a", ⟨1, 0, 1, 3⟩, .standard⟩ := by decide +kernel
  obtain ⟨p, hp, -⟩ := exists_of_map (show (placeholder? item).map Placeholder.name = .ok "A" by
    decide +kernel)
  have hexpand : (expand "\"a\"" item).answer
      = .error ⟨.expansion, ⟨.notUnit, ⟨1, 11, 1, 14⟩⟩⟩ := by
    decide +kernel
  obtain ⟨-, hflag, hstands, -⟩ := (rejections_point_at_fault misspelt item).1 _ _ hunknown
  have hfault := ((rejections_point_at_fault "\"a\"" item).2 _ p harguments hp).2.2 _ hexpand
  refine ⟨hunknown, hflag, hstands, _, p, harguments, hp, hexpand, ?_⟩
  rcases hfault.2 with ⟨hfault, -⟩ | ⟨-, hnowhere, -⟩
  · exact hfault
  · cases hnowhere

/-- Of a struct with a `where` clause the complaint is empty, and the clause is not. -/
theorem where_clause_points_nowhere :
    let arguments := "\"a\""
    let item := "struct A where u8: Copy;"
    (∃ a p, arguments? arguments = .ok a ∧ placeholder? item = .ok p ∧ p.HasOnlyWhere) ∧
    StandsAt item.toList ⟨1, 9, 1, 23⟩ "where u8: Copy".toList ∧
    (expand arguments item).answer = .error ⟨.expansion, ⟨.declaresGenerics, .nowhere⟩⟩ ∧
    Extent.nowhere.IsEmpty := by
  intro arguments item
  have harguments : arguments? arguments = .ok ⟨"a", ⟨1, 0, 1, 3⟩, .standard⟩ := by decide +kernel
  have hexpand : (expand arguments item).answer
      = .error ⟨.expansion, ⟨.declaresGenerics, .nowhere⟩⟩ := by
    decide +kernel
  obtain ⟨p, hp, hparts⟩ := exists_of_map (show (placeholder? item).map
      (fun p => (p.fields, p.parameters, p.hasWhere)) = .ok (.unit, none, true) by
    decide +kernel)
  have hwhere : p.HasOnlyWhere :=
    ⟨congrArg Prod.fst hparts, congrArg (·.2.1) hparts, congrArg (·.2.2) hparts⟩
  exact ⟨⟨_, p, harguments, hp, hwhere⟩, ⟨"struct A ".toList, ⟨[';'], by decide⟩, by decide⟩,
    hexpand, rfl, rfl⟩

end CaptureTypes
