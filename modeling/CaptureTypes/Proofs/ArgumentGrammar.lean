/-
# The grammar of the attribute's arguments

The arguments are a literal of text and a list of flags (`SpellsArguments`),
and what is written so is what is accepted: that it is accepted is known,
and the converse is proved along the reading of the flags
(`exists_spellsFlags_of_flags`).

Among the streams that are refused, some are refused for a name alone.
`MeetsUnknown` says which: the flags up to some item are well, and that item
is well too but for its name, which no toggle has.  Nothing is asked of what
comes after it.
-/
import CaptureTypes.Proofs.TextLiteral
import CaptureTypes.Proofs.UnknownName
import Mathlib.Data.List.Induction

namespace CaptureTypes

namespace Flag

/-- What a flag writes. -/
def written (f : Flag) : Bool := f.value.getD true

/-- The last of the flags for a toggle. -/
def last? (fs : List Flag) (t : Toggle) : Option Flag := (fs.filter (·.toggle = t)).getLast?

/-- The last flag for a toggle decides its value. -/
theorem get_foldl_write (o : Options) (fs : List Flag) (t : Toggle) :
    (fs.foldl write o).get t = ((last? fs t).map written).getD (o.get t) := by
  induction fs using List.reverseRecOn with
  | nil => rfl
  | append_singleton fs f ih =>
      rw [List.foldl_append, List.foldl_cons, List.foldl_nil, write, Options.get_set, last?,
        List.filter_append]
      by_cases ht : f.toggle = t
      · rw [if_pos ht.symm, List.filter_cons_of_pos (by simpa using ht), List.filter_nil,
          List.getLast?_concat]
        rfl
      · rw [if_neg (Ne.symm ht), List.filter_cons_of_neg (by simpa using ht), List.filter_nil,
          List.append_nil]
        exact ih

end Flag

theorem Toggle.exists_of_named? {s : String} {t : Toggle} (h : Toggle.named? s = some t) :
    s = t.name := by
  have heq := List.find?_some h
  exact (eq_of_beq heq).symm

theorem Options.exists_of_setNamed? {o o' : Options} {s : String} {value : Bool}
    (h : o.setNamed? s value = some o') : ∃ t : Toggle, s = t.name ∧ o' = o.set t value := by
  obtain ⟨t, ht, rfl⟩ := Option.map_eq_some_iff.mp h
  exact ⟨t, Toggle.exists_of_named? ht, rfl⟩

namespace Grammar

/-! ## The grammar -/

/-- The value of a flag as it is written after its name, and the tokens after it: an equality
sign with a truth value, or no equality sign at all. -/
inductive SpellsValue : List SourceToken → Option Bool → List SourceToken → Prop
  | none {ts : List SourceToken} : (∀ p j rest, ts ≠ .sign p '=' j :: rest) →
      SpellsValue ts Option.none ts
  | some {p q : Extent} {j b : Bool} {rest : List SourceToken} :
      SpellsValue (.sign p '=' j :: .word q (truthWord b) :: rest) (some b) rest

/-- A list of flags goes well up to an item that is well but for its name, which no toggle
has. -/
inductive MeetsUnknown (name : String) (place : Extent) : List SourceToken → Prop
  | here {p : Extent} {j : Bool} {value : Option Bool} {ts rest : List SourceToken} :
      Token.isName name = true → name ∉ Toggle.names → SpellsValue ts value rest →
      MeetsUnknown name place (.sign p ',' j :: .word place name :: ts)
  | after {p q : Extent} {j : Bool} {t : Toggle} {value : Option Bool}
      {ts rest : List SourceToken} :
      SpellsValue ts value rest → MeetsUnknown name place rest →
      MeetsUnknown name place (.sign p ',' j :: .word q t.name :: ts)

/-- The tokens of a literal of text and of flags. -/
def SpellsArguments (ts : List SourceToken) (pattern : String) (place : Extent)
    (fs : List Flag) : Prop :=
  ∃ s rest, ts = .literal place s :: rest ∧ Token.quoted? s = some pattern ∧ SpellsFlags rest fs

/-! ## Values -/

/-- A value is read iff it is spelled; a flag without one is switched on. -/
theorem flagValue_eq_ok_iff {ts rest : List SourceToken} {b : Bool} :
    flagValue ts = .ok (b, rest) ↔ ∃ value, SpellsValue ts value rest ∧ b = value.getD true := by
  constructor
  · intro h
    unfold flagValue at h
    split at h
    · rename_i p j us
      split at h
      · rename_i found htruth
        cases h
        obtain ⟨place, rfl⟩ := exists_truthWord_of_truth? htruth
        exact ⟨some b, .some, rfl⟩
      · cases h
    · rename_i hno
      cases h
      exact ⟨none, .none hno, rfl⟩
  · rintro ⟨value, hvalue, rfl⟩
    cases hvalue with
    | none hno =>
        unfold flagValue
        split
        · exact absurd rfl (hno _ _ _)
        · rfl
    | some => rw [flagValue, truth?_truthWord]; rfl

/-- What is wrong with a value is not the name before it. -/
theorem flagValue_ne_unknown {ts : List SourceToken} {name : String} {place : Extent} :
    flagValue ts ≠ .error ⟨.unknownOption name, place⟩ := by
  unfold flagValue
  split
  · split
    · exact nofun
    · exact nofun
  · exact nofun

/-! ## Flags -/

/-- A flag and the flags after it. -/
theorem spellsFlags_cons {p q : Extent} {j : Bool} {t : Toggle} {value : Option Bool}
    {ts rest : List SourceToken} {fs : List Flag} (hvalue : SpellsValue ts value rest)
    (hrest : SpellsFlags rest fs) :
    SpellsFlags (.sign p ',' j :: .word q t.name :: ts) (⟨t, value⟩ :: fs) := by
  cases hvalue with
  | none => exact .bare hrest
  | some => exact .valued hrest

/-- **What is read as flags is spelled as flags.** -/
theorem exists_spellsFlags_of_flags {o o' : Options} {ts : List SourceToken}
    (h : flags o ts = .ok o') : ∃ fs, SpellsFlags ts fs ∧ o' = fs.foldl Flag.write o := by
  fun_induction flags o ts with
  | case1 o =>
      cases h
      exact ⟨[], .none, rfl⟩
  | case2 o =>
      cases h
      exact ⟨[], .comma, rfl⟩
  | case4 o p j place s ts hname b rest hvalue o₁ hset ih =>
      obtain ⟨value, hspells, rfl⟩ := flagValue_eq_ok_iff.mp hvalue
      obtain ⟨t, rfl, rfl⟩ := Options.exists_of_setNamed? hset
      obtain ⟨fs, hfs, rfl⟩ := ih h
      exact ⟨⟨t, value⟩ :: fs, spellsFlags_cons hspells hfs, rfl⟩
  | case3 | case5 | case6 | case7 | case8 => cases h

/-- An item that is well but for its name is refused for the name. -/
theorem flags_of_unknown {p place : Extent} {j b : Bool} {name : String}
    {ts rest : List SourceToken} (o : Options) (hname : Token.isName name = true)
    (hunknown : name ∉ Toggle.names) (hvalue : flagValue ts = .ok (b, rest)) :
    flags o (.sign p ',' j :: .word place name :: ts) = .error ⟨.unknownOption name, place⟩ := by
  rw [flags, if_pos hname]
  split
  · rename_i heq
    rw [hvalue] at heq
    cases heq
  · rw [Options.setNamed?_eq_none hunknown]

/-- Flags are refused for a name alone iff they meet one that no toggle has. -/
theorem flags_eq_unknown_iff {name : String} {place : Extent} {o : Options}
    {ts : List SourceToken} :
    flags o ts = .error ⟨.unknownOption name, place⟩ ↔ MeetsUnknown name place ts := by
  constructor
  · intro h
    fun_induction flags o ts with
    | case3 o p j place' s ts hname c hvalue =>
        cases h
        exact absurd hvalue flagValue_ne_unknown
    | case4 o p j place' s ts hname b rest hvalue o₁ hset ih =>
        obtain ⟨value, hspells, rfl⟩ := flagValue_eq_ok_iff.mp hvalue
        obtain ⟨t, rfl, rfl⟩ := Options.exists_of_setNamed? hset
        exact .after hspells (ih h)
    | case5 o p j place' s ts hname b rest hvalue hset =>
        cases h
        obtain ⟨value, hspells, rfl⟩ := flagValue_eq_ok_iff.mp hvalue
        refine .here hname (fun hmem => ?_) hspells
        obtain ⟨t, -, rfl⟩ := List.mem_map.mp hmem
        rw [setNamed?_name] at hset
        cases hset
    | case1 | case2 | case6 | case7 | case8 => cases h
  · intro h
    induction h generalizing o with
    | here hname hunknown hvalue =>
        exact flags_of_unknown o hname hunknown (flagValue_eq_ok_iff.mpr ⟨_, hvalue, rfl⟩)
    | after hvalue _ ih =>
        rw [flags_cons (flagValue_eq_ok_iff.mpr ⟨_, hvalue, rfl⟩)]
        exact ih

/-! ## The arguments -/

theorem ofTokens_literal {place : Extent} {s pattern : String} {rest : List SourceToken}
    (h : Token.quoted? s = some pattern) :
    Arguments.ofTokens (.literal place s :: rest)
      = (flags .standard rest).map fun o => ⟨pattern, place, o⟩ := by
  simp only [Arguments.ofTokens, h]
  cases flags .standard rest <;> rfl

/-- What is not refused at its front begins with a literal of text. -/
theorem exists_literal_of_ofTokens {ts : List SourceToken}
    (h : ∀ c, Arguments.ofTokens ts = .error c → ∃ name, c.cause = .unknownOption name) :
    ∃ place s pattern rest, ts = .literal place s :: rest ∧ Token.quoted? s = some pattern := by
  unfold Arguments.ofTokens at h
  split at h
  · rename_i place s rest
    split at h
    · rename_i pattern hpattern
      exact ⟨place, s, pattern, rest, rfl, hpattern⟩
    · obtain ⟨name, hname⟩ := h _ rfl
      cases hname
  · obtain ⟨name, hname⟩ := h _ rfl
    cases hname

/-- The arguments are accepted iff they are spelled, and then with what they spell. -/
theorem ofTokens_eq_ok_iff {ts : List SourceToken} {a : Arguments} :
    Arguments.ofTokens ts = .ok a ↔
      ∃ fs, SpellsArguments ts a.pattern a.extent fs ∧ a.options = Flag.options fs := by
  obtain ⟨pattern, place, o⟩ := a
  constructor
  · intro h
    obtain ⟨place', s, pattern', rest, rfl, hpattern⟩ :=
      exists_literal_of_ofTokens (by rw [h]; exact nofun)
    rw [ofTokens_literal hpattern] at h
    cases hflags : flags .standard rest with
    | error c =>
        rw [hflags] at h
        cases h
    | ok o' =>
        rw [hflags] at h
        cases h
        obtain ⟨fs, hfs, rfl⟩ := exists_spellsFlags_of_flags hflags
        exact ⟨fs, ⟨s, rest, rfl, hpattern, hfs⟩, rfl⟩
  · rintro ⟨fs, ⟨s, rest, rfl, hpattern, hflags⟩, rfl⟩
    rw [ofTokens_literal hpattern, flags_of_spellsFlags hflags]
    rfl

/-- The arguments are refused for a name alone iff their flags are. -/
theorem ofTokens_eq_unknown_iff {ts : List SourceToken} {name : String} {place : Extent} :
    Arguments.ofTokens ts = .error ⟨.unknownOption name, place⟩ ↔
      ∃ p s pattern rest, ts = .literal p s :: rest ∧ Token.quoted? s = some pattern ∧
        MeetsUnknown name place rest := by
  constructor
  · intro h
    have hcause : ∀ c, Arguments.ofTokens ts = .error c →
        ∃ name, c.cause = .unknownOption name := by
      intro c hc
      cases h.symm.trans hc
      exact ⟨name, rfl⟩
    obtain ⟨p, s, pattern, rest, rfl, hpattern⟩ := exists_literal_of_ofTokens hcause
    rw [ofTokens_literal hpattern] at h
    refine ⟨p, s, pattern, rest, rfl, hpattern, ?_⟩
    cases hflags : flags .standard rest with
    | error c =>
        rw [hflags] at h
        cases h
        exact flags_eq_unknown_iff.mp hflags
    | ok o =>
        rw [hflags] at h
        cases h
  · rintro ⟨p, s, pattern, rest, rfl, hpattern, hmeets⟩
    rw [ofTokens_literal hpattern, flags_eq_unknown_iff.mpr hmeets]
    rfl

/-- **The grammar of the arguments.**  Tokens are accepted as arguments iff they are a literal
of text and flags, each after a comma, with at most one comma at the end; what is accepted is
the text of the literal and the options that the flags amount to.  All other tokens are refused;
they are refused for the name of a flag iff they go well up to a flag that is well but for its
name.  Of several flags for one toggle the last decides, and a toggle without one has its
standard value.  The text of a whole literal is the one it denotes. -/
theorem arguments_accepted_iff (ts : List SourceToken) :
    (∀ a, Arguments.ofTokens ts = .ok a ↔
      ∃ fs, SpellsArguments ts a.pattern a.extent fs ∧ a.options = Flag.options fs) ∧
    ((∃ c, Arguments.ofTokens ts = .error c) ↔
      ∀ pattern place fs, ¬ SpellsArguments ts pattern place fs) ∧
    (∀ name place, Arguments.ofTokens ts = .error ⟨.unknownOption name, place⟩ ↔
      ∃ p s pattern rest, ts = .literal p s :: rest ∧ Token.quoted? s = some pattern ∧
        MeetsUnknown name place rest) ∧
    (∀ fs t, (Flag.options fs).get t = ((Flag.last? fs t).map Flag.written).getD t.standard) ∧
    (∀ s pattern, Token.afterLiteral? s.toList = some [] →
      (Token.quoted? s = some pattern ↔ Token.Denotes s pattern)) := by
  refine ⟨fun _ => ofTokens_eq_ok_iff, ?_, fun _ _ => ofTokens_eq_unknown_iff, fun fs t => ?_,
    fun _ _ => Token.quoted?_eq_some_iff⟩
  · constructor
    · rintro ⟨c, hc⟩ pattern place fs hspells
      have hok : Arguments.ofTokens ts = .ok ⟨pattern, place, Flag.options fs⟩ :=
        ofTokens_eq_ok_iff.mpr ⟨fs, hspells, rfl⟩
      rw [hc] at hok
      cases hok
    · intro hnone
      cases h : Arguments.ofTokens ts with
      | error c => exact ⟨c, rfl⟩
      | ok a =>
          obtain ⟨fs, hspells, -⟩ := ofTokens_eq_ok_iff.mp h
          exact absurd hspells (hnone a.pattern a.extent fs)
  · rw [Flag.options, Flag.get_foldl_write, Options.get_standard]

/-- A raw word is not the name that it marks, and what comes after it is not looked at. -/
example : arguments? "\"a\", crlf = true, r#octal, , \"b\""
    = .error ⟨.unknownOption "r#octal", ⟨1, 18, 1, 25⟩⟩ := by
  decide +kernel

end Grammar

end CaptureTypes
