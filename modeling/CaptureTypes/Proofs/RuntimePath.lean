/-
# The path to the runtime

What is generated refers to the runtime by a path, and the path can be
chosen.  The tokens are those of a template with the path put into it
(`Piece.fillAll`), so nothing else depends on the choice.  What is shown here
is that the usual path can be told apart from everything else in the tokens:
another path gives the tokens in which it is put for each `::typed_regex`
(`redirect`).

Two parts of the tokens come from the user as they are, the attributes and
the visibility, and these stay as they are.  All the rest has a word
`typed_regex` only in the paths, and where the type is named so (`Bears`).
The type is named once in each of the four items, after `struct`, `for` or
`>` and never after a colon, so that its name is not taken for the end of a
path.  The modules are around all of this, and their names change nothing in it.
-/
import CaptureTypes.Proofs.ModulePath

namespace CaptureTypes

namespace Token

mutual

/-- The words in a token. -/
def wordsOf {σ : Type} : Token σ → List String
  | word _ s => [s]
  | sign _ _ _ => []
  | literal _ _ => []
  | group _ _ inner => wordsIn inner

/-- The words among tokens and inside them, in their order. -/
def wordsIn {σ : Type} : List (Token σ) → List String
  | [] => []
  | t :: ts => wordsOf t ++ wordsIn ts

end

theorem wordsIn_append {σ : Type} (ts us : List (Token σ)) :
    wordsIn (ts ++ us) = wordsIn ts ++ wordsIn us := by
  induction ts with
  | nil => rfl
  | cons t ts ih => rw [List.cons_append, wordsIn, wordsIn, ih, List.append_assoc]

end Token

open Token (wordsOf wordsIn)

/-! ## Putting a path for the usual one -/

/-- The name of the runtime where it usually is. -/
def runtimeName : String := "typed_regex"

mutual

/-- A token with another path wherever the usual path to the runtime stands in it. -/
def redirectToken (path : List PlainToken) : PlainToken → PlainToken
  | Token.group _ d inner => Token.group () d (redirect path inner)
  | t => t

/-- Tokens with another path wherever the usual path to the runtime stands. -/
def redirect (path : List PlainToken) : List PlainToken → List PlainToken
  | Token.sign _ ':' true :: Token.sign _ ':' false :: Token.word _ "typed_regex" :: rest =>
    path ++ redirect path rest
  | t :: rest => redirectToken path t :: redirect path rest
  | [] => []

end

theorem redirectToken_word (path : List PlainToken) (name : String) :
    redirectToken path (Token.word () name) = Token.word () name := rfl

theorem mem_wordsIn_usual (rest : List PlainToken) :
    runtimeName ∈ wordsIn (Surroundings.standard.runtime ++ rest) := by
  rw [Token.wordsIn_append]
  exact List.mem_append_left _ (List.mem_singleton.mpr rfl)

theorem redirect_usual (path rest : List PlainToken) :
    redirect path (Surroundings.standard.runtime ++ rest) = path ++ redirect path rest := rfl

/-- A token with which no usual path begins is redirected by itself. -/
theorem redirect_cons {path : List PlainToken} {t : PlainToken} {rest : List PlainToken}
    (h : ∀ more, t :: rest ≠ Surroundings.standard.runtime ++ more) :
    redirect path (t :: rest) = redirectToken path t :: redirect path rest := by
  rw [redirect]
  rintro _ _ _ more rfl rfl
  exact h more rfl

/-- No path begins before a token that is none of it and goes on after it. -/
theorem redirect_append {path : List PlainToken} {t : PlainToken}
    (ht : ∀ u ∈ Surroundings.standard.runtime, u ≠ t) (more : List PlainToken) :
    ∀ ts, redirect path (ts ++ t :: more) = redirect path ts ++ redirect path (t :: more)
  | [] => rfl
  | u :: rest => by
    by_cases hbegins : ∃ rest', u :: rest = Surroundings.standard.runtime ++ rest'
    · obtain ⟨rest', heq⟩ := hbegins
      have hshorter : rest'.length < (u :: rest).length := by
        rw [heq, List.length_append]
        exact Nat.lt_add_of_pos_left (by decide)
      rw [heq, List.append_assoc, redirect_usual, redirect_append ht more rest', redirect_usual,
        List.append_assoc]
    · have hlonger : ∀ after,
          u :: (rest ++ t :: more) ≠ Surroundings.standard.runtime ++ after := by
        intro after heq
        rw [← List.cons_append] at heq
        rcases List.append_eq_append_iff.mp heq with ⟨between, hruntime, hmore⟩ | ⟨rest', hrest, -⟩
        · cases between with
          | nil => exact hbegins ⟨[], by rw [hruntime, List.append_nil, List.append_nil]⟩
          | cons v between =>
              obtain ⟨rfl, -⟩ := List.cons.inj hmore
              exact ht _ (hruntime ▸ List.mem_append_right _ List.mem_cons_self) rfl
        · exact hbegins ⟨rest', hrest⟩
      rw [List.cons_append, redirect_cons hlonger, redirect_append ht more rest,
        redirect_cons fun after heq => hbegins ⟨after, heq⟩, List.cons_append]
termination_by ts => ts.length
decreasing_by
  · exact hshorter
  · exact Nat.lt_succ_self _

mutual

theorem redirectToken_eq_self {path : List PlainToken} :
    ∀ {t : PlainToken}, runtimeName ∉ wordsOf t → redirectToken path t = t
  | Token.group _ d _, h => congrArg (Token.group () d) (redirect_eq_self h)
  | Token.word _ _, _ | Token.sign _ _ _, _ | Token.literal _ _, _ => rfl

/-- Tokens without the name of the runtime hold no path to redirect. -/
theorem redirect_eq_self {path : List PlainToken} :
    ∀ {ts : List PlainToken}, runtimeName ∉ wordsIn ts → redirect path ts = ts
  | [], _ => rfl
  | t :: rest, h => by
    obtain ⟨ht, hrest⟩ := not_or.mp (mt List.mem_append.mpr h)
    rw [redirect_cons, redirectToken_eq_self ht, redirect_eq_self hrest]
    exact fun more heq => h (heq ▸ mem_wordsIn_usual more)

end

namespace Emission

open Piece

/-! ## Templates that do not name the runtime -/

/-- Whether the tokens of a template are without a word, whatever path is put into it. -/
def Omits (name : String) (ps : List Piece) : Prop :=
  (wordsIn (fillAll [] ps)).contains name = false

section
variable {name : String} {ps qs : List Piece}

theorem omits_iff : Omits name ps ↔ name ∉ wordsIn (fillAll [] ps) := by
  rw [Omits, ← Bool.not_eq_true, List.contains_iff_mem]

theorem omits_append : Omits name (ps ++ qs) ↔ Omits name ps ∧ Omits name qs := by
  rw [omits_iff, fillAll_append, Token.wordsIn_append, List.mem_append, not_or, omits_iff,
    omits_iff]

theorem omits_nil : Omits name [] := rfl

theorem omits_token {t : PlainToken} :
    Omits name (.token t :: ps) ↔ name ∉ wordsOf t ∧ Omits name ps := by
  have hwords : wordsIn (fillAll [] (.token t :: ps)) = wordsOf t ++ wordsIn (fillAll [] ps) := rfl
  rw [omits_iff, hwords, List.mem_append, not_or, omits_iff]

theorem omits_runtime : Omits name (.runtime :: ps) ↔ Omits name ps := Iff.rfl

theorem omits_group {d : Delimiter} :
    Omits name (.group d ps :: qs) ↔ Omits name ps ∧ Omits name qs := by
  have hwords : wordsIn (fillAll [] (.group d ps :: qs))
      = wordsIn (fillAll [] ps) ++ wordsIn (fillAll [] qs) := rfl
  rw [omits_iff, hwords, List.mem_append, not_or, omits_iff, omits_iff]

end

/-! ### Parts of templates -/

section
variable {name : String}

theorem omits_flatMap {α : Type} {f : α → List Piece} {as : List α} :
    Omits name (as.flatMap f) ↔ ∀ a ∈ as, Omits name (f a) := by
  induction as with
  | nil => exact iff_of_true omits_nil (List.forall_mem_nil _)
  | cons a as ih => rw [List.flatMap_cons, omits_append, ih, List.forall_mem_cons]

theorem omits_word {s : String} : Omits name (word s) ↔ s ≠ name := by
  rw [word, omits_token, and_iff_left omits_nil]
  exact List.mem_singleton.not.trans ne_comm

theorem omits_sign (s : String) : Omits name (sign s) := by
  rw [sign]
  induction s.toList with
  | nil => rfl
  | cons c cs ih =>
      cases cs with
      | nil => rfl
      | cons d cs => exact ih

theorem omits_enclosed {d : Delimiter} {ps : List Piece} :
    Omits name [.group d ps] ↔ Omits name ps := by
  rw [omits_group, and_iff_left omits_nil]

theorem omits_separatedBy {separator : List Piece} (hseparator : Omits name separator)
    {ps : List (List Piece)} (h : ∀ p ∈ ps, Omits name p) :
    Omits name (separatedBy separator ps) := by
  fun_induction separatedBy separator ps with
  | case1 => exact omits_nil
  | case2 p => exact h p List.mem_cons_self
  | case3 p ps _ ih =>
      obtain ⟨hp, hps⟩ := List.forall_mem_cons.mp h
      exact omits_append.mpr ⟨omits_append.mpr ⟨hp, hseparator⟩, ih hps⟩

end

/-! ### Parts of a declaration -/

theorem omits_fixedMembers (s : Spec) (count : Nat) :
    ∀ m ∈ fixedMembers s count, Omits runtimeName m.pieces := by
  have hall : (fixedMembers s count).all
      (fun m => !(wordsIn (fillAll [] m.pieces)).contains runtimeName) = true := rfl
  exact fun m hm => by simpa [Omits] using List.all_eq_true.mp hall m hm

theorem omits_builderCalls (o : Options) : Omits runtimeName (builderCalls o) := by
  refine omits_flatMap.mpr fun t _ => ?_
  rw [builderCall]
  cases o.get t <;> cases t <;> rfl

theorem omits_regexBody (s : Spec) : Omits runtimeName (regexBody s) := by
  have hcalls := omits_builderCalls s.options
  rw [regexBody]
  generalize builderCalls s.options = calls at hcalls ⊢
  simp only [callOf, parens, braces, separatedBy, omits_append, omits_enclosed, hcalls, and_true]
  -- all other parts have words of their own only
  and_intros <;> rfl

theorem omits_binding (a : Accessor) : Omits runtimeName (binding a) := by
  rw [binding, givenName]
  cases a.group.named <;> rfl

theorem omits_fromCapturesBody (accessors : List Accessor) :
    Omits runtimeName (fromCapturesBody accessors) := by
  have hbindings : Omits runtimeName (separatedBy (sign ",") (accessors.map binding)) := by
    refine omits_separatedBy (omits_sign ",") fun p hp => ?_
    obtain ⟨a, -, rfl⟩ := List.mem_map.mp hp
    exact omits_binding a
  rw [fromCapturesBody]
  simp only [brackets, omits_append, omits_enclosed, hbindings, and_true]
  and_intros <;> rfl

theorem omits_function {name : String} {parameters result body : List Piece}
    (hname : name ≠ runtimeName) (hparameters : Omits runtimeName parameters)
    (hresult : Omits runtimeName result) (hbody : Omits runtimeName body) :
    Omits runtimeName (Content.pieces name (.function parameters result body)) := by
  have hwords : Omits runtimeName (words ["fn", name]) :=
    omits_append.mpr ⟨rfl, omits_append.mpr ⟨omits_word.mpr hname, rfl⟩⟩
  simp only [Content.pieces, parens, braces, omits_append, omits_enclosed, hwords, hparameters,
    hresult, hbody, and_true, true_and]
  exact rfl

theorem omits_traitMembers (s : Spec) (accessors : List Accessor) :
    ∀ m ∈ traitMembers s accessors, Omits runtimeName m.pieces := by
  have hregex : Omits runtimeName (Content.pieces "regex"
      (.function [] (staticReference regexType) (regexBody s))) :=
    omits_function (by decide) rfl rfl (omits_regexBody s)
  have hfrom : Omits runtimeName (Content.pieces "from_captures"
      (.function (word "captures" ++ sign ":" ++ capturesType) itself
        (fromCapturesBody accessors))) :=
    omits_function (by decide) rfl rfl (omits_fromCapturesBody accessors)
  simp only [traitMembers, List.forall_mem_cons]
  exact ⟨rfl, hregex, hfrom, rfl, rfl, List.forall_mem_nil _⟩

theorem omits_accessorMember {slot : Nat} {a : Accessor} (h : a.method ≠ runtimeName) :
    Omits runtimeName (accessorMember slot a).pieces := by
  have hcontent : Omits runtimeName (Content.pieces a.method
      (.function selfReference (reference groupType)
        (reference (fieldOf (word "self") "groups") ++ brackets (number slot)))) :=
    omits_function h rfl rfl rfl
  exact omits_append.mpr ⟨rfl, hcontent⟩

theorem omits_accessorMembers {accessors : List Accessor}
    (h : ∀ a ∈ accessors, a.method ≠ runtimeName) (slot : Nat) :
    ∀ m ∈ accessorMembers slot accessors, Omits runtimeName m.pieces := by
  induction accessors generalizing slot with
  | nil => exact List.forall_mem_nil _
  | cons a rest ih =>
      obtain ⟨ha, hrest⟩ := List.forall_mem_cons.mp h
      exact List.forall_mem_cons.mpr ⟨omits_accessorMember ha, ih hrest (slot + 1)⟩

theorem omits_members {members : List Member}
    (h : ∀ m ∈ members, Omits runtimeName m.pieces) :
    Omits runtimeName (braces (members.flatMap Member.pieces)) :=
  omits_enclosed.mpr (omits_flatMap.mpr h)

theorem omits_nest {modules : List String} {items : List Item}
    (hmodules : ∀ name ∈ modules, name ≠ runtimeName)
    (hitems : Omits runtimeName (Item.allPieces items)) :
    Omits runtimeName (Item.allPieces (Item.nest modules items)) := by
  induction modules with
  | nil => exact hitems
  | cons name modules ih =>
      obtain ⟨hname, hmodules⟩ := List.forall_mem_cons.mp hmodules
      have hwords : Omits runtimeName (words ["pub", "mod", name]) :=
        omits_append.mpr ⟨rfl, omits_append.mpr ⟨rfl, omits_append.mpr ⟨omits_word.mpr hname, rfl⟩⟩⟩
      exact omits_append.mpr
        ⟨omits_append.mpr ⟨hwords, omits_enclosed.mpr (ih hmodules)⟩, rfl⟩

/-! ## Templates with a path -/

theorem fillAll_tokens (path ts : List PlainToken) : fillAll path (ts.map .token) = ts := by
  induction ts with
  | nil => rfl
  | cons t ts ih => exact congrArg (t :: ·) ih

theorem omits_tokens {name : String} {ts : List PlainToken} :
    Omits name (ts.map .token) ↔ name ∉ wordsIn ts := by
  rw [omits_iff, fillAll_tokens]

/-- A template that is without a word has it only from the path. -/
theorem Omits.not_mem {name : String} {path : List PlainToken} (hpath : name ∉ wordsIn path)
    {ps : List Piece} (h : Omits name ps) : name ∉ wordsIn (fillAll path ps) := by
  match ps with
  | [] => exact List.not_mem_nil
  | .token t :: ps =>
    obtain ⟨ht, hps⟩ := omits_token.mp h
    exact mt List.mem_append.mp (not_or_intro ht (hps.not_mem hpath))
  | .runtime :: ps =>
    rw [fillAll, fill, Token.wordsIn_append]
    exact mt List.mem_append.mp (not_or_intro hpath ((omits_runtime.mp h).not_mem hpath))
  | .group d inner :: ps =>
    obtain ⟨hinner, hps⟩ := omits_group.mp h
    exact mt List.mem_append.mp (not_or_intro (hinner.not_mem hpath) (hps.not_mem hpath))

/-- The first word of a template is not the name of the runtime, for its path has signs first. -/
theorem fillAll_ne_runtimeName {ps : List Piece} (h : Omits runtimeName ps)
    (more : List PlainToken) :
    fillAll Surroundings.standard.runtime ps ≠ Token.word () runtimeName :: more := by
  intro heq
  match ps with
  | [] => cases heq
  | .token t :: ps =>
    obtain rfl := (List.cons.inj heq).1
    cases h
  | .runtime :: ps => cases heq
  | .group d inner :: ps => cases heq

/-- No token before a template begins a path to the runtime with the tokens of the template. -/
theorem cons_fillAll_ne_usual {ps : List Piece} (h : Omits runtimeName ps) (t : PlainToken)
    (more : List PlainToken) :
    t :: fillAll Surroundings.standard.runtime ps ≠ Surroundings.standard.runtime ++ more := by
  intro heq
  have hrest : fillAll Surroundings.standard.runtime ps
      = Token.sign () ':' false :: Token.word () runtimeName :: more := (List.cons.inj heq).2
  match ps with
  | [] => cases hrest
  | .token t :: ps =>
    exact fillAll_ne_runtimeName (omits_token.mp h).2 more (List.cons.inj hrest).2
  | .runtime :: ps => cases hrest
  | .group d inner :: ps => cases hrest

/-- **Another path is put where the usual one was.** -/
theorem Omits.redirect_fillAll (path : List PlainToken) {ps : List Piece}
    (h : Omits runtimeName ps) :
    redirect path (fillAll Surroundings.standard.runtime ps) = fillAll path ps := by
  match ps with
  | [] => rfl
  | .token t :: ps =>
    obtain ⟨ht, hps⟩ := omits_token.mp h
    show redirect path (t :: fillAll Surroundings.standard.runtime ps) = t :: fillAll path ps
    rw [redirect_cons (cons_fillAll_ne_usual hps t), redirectToken_eq_self ht,
      hps.redirect_fillAll path]
  | .runtime :: ps =>
    show redirect path (Surroundings.standard.runtime ++ _) = path ++ fillAll path ps
    rw [redirect_usual, (omits_runtime.mp h).redirect_fillAll path]
  | .group d inner :: ps =>
    obtain ⟨hinner, hps⟩ := omits_group.mp h
    show redirect path (Token.group () d _ :: fillAll Surroundings.standard.runtime ps)
      = Token.group () d (fillAll path inner) :: fillAll path ps
    rw [redirect_cons (cons_fillAll_ne_usual hps _), redirectToken, hinner.redirect_fillAll path,
      hps.redirect_fillAll path]

/-! ## Templates that bear a name -/

/-- A template bears a name a number of times: each time after a token that is no part of the
path to the runtime.  The name of the runtime is nowhere else in it. -/
inductive Bears (name : String) : Nat → List Piece → Prop
  | never {ps : List Piece} : Omits runtimeName ps → Bears name 0 ps
  | after {n : Nat} {before after : List Piece} {t : PlainToken} :
      Omits runtimeName before → (∀ u ∈ Surroundings.standard.runtime, u ≠ t) →
      runtimeName ∉ wordsOf t → Bears name n after →
      Bears name (n + 1) (before ++ .token t :: .token (.word name) :: after)

section
variable {name : String} {n m : Nat} {ps qs : List Piece}

theorem bears_once {t : PlainToken} (ht : ∀ u ∈ Surroundings.standard.runtime, u ≠ t)
    (hwords : runtimeName ∉ wordsOf t) : Bears name 1 [.token t, .token (.word name)] :=
  .after omits_nil ht hwords (.never omits_nil)

theorem Omits.append_bears (hps : Omits runtimeName ps) (h : Bears name n qs) :
    Bears name n (ps ++ qs) := by
  cases h with
  | never hqs => exact .never (omits_append.mpr ⟨hps, hqs⟩)
  | after hbefore ht hwords hafter =>
      rw [← List.append_assoc]
      exact .after (omits_append.mpr ⟨hps, hbefore⟩) ht hwords hafter

theorem Bears.append (h : Bears name n ps) (hqs : Bears name m qs) :
    Bears name (n + m) (ps ++ qs) := by
  induction h with
  | never hps =>
      rw [Nat.zero_add]
      exact hps.append_bears hqs
  | after hbefore ht hwords _ ih =>
      rw [Nat.add_right_comm, List.append_assoc]
      exact .after hbefore ht hwords ih

theorem Bears.append_omits (h : Bears name n ps) (hqs : Omits runtimeName qs) :
    Bears name n (ps ++ qs) := h.append (.never hqs)

/-- Whatever name a template bears, another path is put where the usual one was. -/
theorem Bears.redirect_fillAll (path : List PlainToken) (h : Bears name n ps) :
    redirect path (fillAll Surroundings.standard.runtime ps) = fillAll path ps := by
  induction h with
  | never hps => exact hps.redirect_fillAll path
  | @after n before after t hbefore ht hwords _ ih =>
      have hname : ∀ more, Token.word () name :: fillAll Surroundings.standard.runtime after
          ≠ Surroundings.standard.runtime ++ more := fun _ heq => nomatch (List.cons.inj heq).1
      have htoken : ∀ rest more, t :: rest ≠ Surroundings.standard.runtime ++ more :=
        fun _ _ heq => ht _ List.mem_cons_self (List.cons.inj heq).1.symm
      rw [fillAll_append, fillAll_append]
      show redirect path (_ ++ t :: Token.word () name :: fillAll _ after)
        = _ ++ t :: Token.word () name :: fillAll path after
      rw [redirect_append ht, hbefore.redirect_fillAll path, redirect_cons (htoken _),
        redirectToken_eq_self hwords, redirect_cons hname, redirectToken_word, ih]

theorem Bears.omits (h : Bears name n ps) (hname : name ≠ runtimeName) :
    Omits runtimeName ps := by
  induction h with
  | never hps => exact hps
  | after hbefore _ hwords _ ih =>
      exact omits_append.mpr ⟨hbefore, omits_token.mpr ⟨hwords, omits_append.mpr
        ⟨omits_word.mpr hname, ih⟩⟩⟩

/-- Without it in the path, the name of the runtime is where a template bears it. -/
theorem Bears.count_self {path : List PlainToken} (hpath : runtimeName ∉ wordsIn path)
    (h : Bears runtimeName n ps) : (wordsIn (fillAll path ps)).count runtimeName = n := by
  induction h with
  | never hps => exact List.count_eq_zero.mpr (hps.not_mem hpath)
  | @after n before after t hbefore _ hwords _ ih =>
      have hfill : wordsIn (fillAll path
            (before ++ .token t :: .token (.word runtimeName) :: after))
          = wordsIn (fillAll path before) ++
              (wordsOf t ++ runtimeName :: wordsIn (fillAll path after)) := by
        rw [fillAll_append, Token.wordsIn_append]
        rfl
      rw [hfill, List.count_append, List.count_append, List.count_cons_self, ih,
        List.count_eq_zero.mpr (hbefore.not_mem hpath), List.count_eq_zero.mpr hwords, Nat.zero_add,
        Nat.zero_add]

theorem Bears.count_eq {path : List PlainToken} (hpath : runtimeName ∉ wordsIn path)
    (h : Bears name n ps) :
    (wordsIn (fillAll path ps)).count runtimeName = if name = runtimeName then n else 0 := by
  split
  · rename_i hname
    exact (hname ▸ h).count_self hpath
  · rename_i hname
    exact List.count_eq_zero.mpr ((h.omits hname).not_mem hpath)

end

/-! ### The name of the type -/

/-- An implementation of a trait bears the name of its type once, after `for`. -/
theorem bears_traitImplementation {name : String} {binder trait arguments : List Piece}
    {members : List Member} (hbinder : Omits runtimeName binder) (htrait : Omits runtimeName trait)
    (harguments : Omits runtimeName arguments)
    (hmembers : ∀ m ∈ members, Omits runtimeName m.pieces) :
    Bears name 1 (Item.pieces
      (.implementation [] binder (some trait) (word name ++ arguments) members)) := by
  have hbefore : Omits runtimeName (word "impl" ++ binder ++ trait) :=
    omits_append.mpr ⟨omits_append.mpr ⟨rfl, hbinder⟩, htrait⟩
  have hname : Bears name 1 (word "for" ++ word name) := bears_once (by decide) (by decide)
  have hbears := hbefore.append_bears (hname.append_omits
    (omits_append.mpr ⟨harguments, omits_members hmembers⟩))
  simpa only [Item.pieces, List.flatMap_nil, List.nil_append, List.append_assoc] using hbears

/-- The type's own implementation bears its name once, after the lifetime that it binds. -/
theorem bears_ownImplementation {name : String} {members : List Member}
    (hmembers : ∀ m ∈ members, Omits runtimeName m.pieces) :
    Bears name 1 (Item.pieces
      (.implementation [allow "dead_code"] ofText none (word name ++ ofText) members)) := by
  have hbefore : Omits runtimeName ([allow "dead_code"].flatMap attributePieces ++ word "impl" ++
      sign "<" ++ lifetime "t") := rfl
  have hname : Bears name 1 (sign ">" ++ word name) := bears_once (by decide) (by decide)
  have hafter : Omits runtimeName (ofText ++ braces (members.flatMap Member.pieces)) :=
    omits_append.mpr ⟨rfl, omits_members hmembers⟩
  have hbears := hbefore.append_bears (hname.append_omits hafter)
  simpa only [Item.pieces, ofText, angles, List.append_nil, List.append_assoc] using hbears

/-- A declaration has four parts: the attributes given, its own ones, the visibility given, and
the rest, which bears the name of the type in each of the four items. -/
theorem exists_parts (name : String) (s : Spec) {accessors : List Accessor}
    (haccessors : ∀ a ∈ accessors, a.method ≠ runtimeName) :
    ∃ front rest, Omits runtimeName front ∧ Bears name 4 rest ∧ ∀ given visibility,
      Item.allPieces (declaration name s accessors given visibility)
        = given.map .token ++ front ++ visibility.map .token ++ rest := by
  have hstruct : Bears name 1 (words ["struct", name] ++ (angles (lifetime "t") ++
      braces ([("captures", capturesType),
        ("groups", brackets (groupType ++ sign ";" ++ number accessors.length))].flatMap
          fieldPieces))) :=
    (bears_once (by decide) (by decide)).append_omits rfl
  have htrait : Bears name 1 (Item.pieces (.implementation [] ofText (some traitType)
      (word name ++ ofText) (traitMembers s accessors))) :=
    bears_traitImplementation rfl rfl rfl (omits_traitMembers s accessors)
  have hown : Bears name 1 (Item.pieces (.implementation [allow "dead_code"] ofText none
      (word name ++ ofText) (ownMembers s accessors))) :=
    bears_ownImplementation (List.forall_mem_append.mpr
      ⟨omits_fixedMembers s _, omits_accessorMembers haccessors 0⟩)
  have hdisplay : Bears name 1 (Item.pieces (displayItem name)) :=
    bears_traitImplementation rfl rfl rfl (List.forall_mem_singleton.mpr rfl)
  refine ⟨[document (typeDocument s), word "derive" ++ parens (word "Debug")].flatMap
      attributePieces, _, rfl, hstruct.append (htrait.append (hown.append hdisplay)),
    fun given visibility => ?_⟩
  simp only [declaration, structItem, Item.allPieces, Item.pieces, List.append_assoc,
    List.append_nil]

end Emission

/-! ## Declarations with another path -/

theorem exists_of_mem_modulesOf {segments modules : List String}
    (h : modulesOf segments = .ok modules) :
    ∀ name ∈ modules, ∃ segment ∈ segments, Token.name? segment = some name := by
  induction segments generalizing modules with
  | nil =>
      cases h
      exact List.forall_mem_nil _
  | cons segment rest ih =>
      rw [modulesOf_cons] at h
      split at h
      · cases h
      · rename_i name hname
        split at h
        · cases h
        · rename_i names hnames
          cases h
          refine List.forall_mem_cons.mpr ⟨⟨segment, List.mem_cons_self, hname⟩, fun n hn => ?_⟩
          obtain ⟨other, hother, heq⟩ := ih hnames n hn
          exact ⟨other, List.mem_cons_of_mem _ hother, heq⟩

namespace Spec

/-- Nothing that the user gives has the name of the runtime: it is neither the name of the type
nor that of a module, and it is no word of the visibility or the attributes. -/
structure AvoidsRuntime (s : Spec) (visibility attributes : List PlainToken) : Prop where
  typeName : Token.name? s.typeName ≠ some runtimeName
  modules : ∀ segment ∈ s.modulePath, Token.name? segment ≠ some runtimeName
  visibility : runtimeName ∉ wordsIn visibility
  attributes : runtimeName ∉ wordsIn attributes

variable {s : Spec} {r : Resolved} {names : Names}

/-- No accessor has the name of the runtime, which begins with a small letter. -/
theorem method_ne_runtimeName (hresolve : s.resolve = .ok r) (hnames : s.namesWith r = .ok names) :
    ∀ a ∈ names.accessors, a.method ≠ runtimeName := by
  intro a ha heq
  obtain ⟨c, hcompile, rfl⟩ := resolve_ok_iff.mp hresolve
  obtain ⟨-, -, haccessors⟩ := namesWith_ok_iff.mp hnames
  obtain ⟨-, hgroups, hmethods⟩ := Emission.accessorsAfter_ok haccessors
  have hmem : a.group ∈ Group.listFrom 0 c.groups :=
    List.mem_of_mem_drop (hgroups ▸ List.mem_map_of_mem ha)
  have hidentifier := Group.isIdentifier_of_mem_listFrom
    (Pattern.isGroupList_of_compile hcompile) hmem
  have hsmall := beginsSmall_of_isIdentifier hidentifier
  rw [← Token.eq_of_name? hidentifier.solid (hmethods a ha), heq] at hsmall
  exact absurd hsmall (by decide)

/-- The tokens of a declaration by their parts, inside the modules. -/
theorem exists_tokensWith (hresolve : s.resolve = .ok r) (hnames : s.namesWith r = .ok names) :
    ∃ front rest, Emission.Omits runtimeName front ∧ Emission.Bears names.typeName 4 rest ∧
      ∀ around, s.tokensWith names around = names.modules.foldr moduleTokens
        (around.attributes ++ Emission.Piece.fillAll around.runtime front ++ around.visibility ++
          Emission.Piece.fillAll around.runtime rest) := by
  obtain ⟨front, rest, hfront, hrest, hparts⟩ :=
    Emission.exists_parts names.typeName s (method_ne_runtimeName hresolve hnames)
  refine ⟨front, rest, hfront, hrest, fun around => ?_⟩
  rw [tokensWith, itemsWith, fillAll_nest, hparts]
  simp only [Emission.Piece.fillAll_append, Emission.fillAll_tokens]

/-- The template of a declaration has the name of the runtime only from the user. -/
theorem omits_itemsWith {visibility attributes runtime : List PlainToken}
    (h : s.AvoidsRuntime visibility attributes) (hresolve : s.resolve = .ok r)
    (hnames : s.namesWith r = .ok names) :
    Emission.Omits runtimeName
      (Emission.Item.allPieces (s.itemsWith names ⟨visibility, attributes, runtime⟩)) := by
  obtain ⟨htype, hmodules, -⟩ := namesWith_ok_iff.mp hnames
  refine Emission.omits_nest (fun name hname heq => ?_) ?_
  · obtain ⟨segment, hsegment, hread⟩ := exists_of_mem_modulesOf hmodules name hname
    exact h.modules segment hsegment (heq ▸ hread)
  · obtain ⟨front, rest, hfront, hrest, hparts⟩ :=
      Emission.exists_parts names.typeName s (method_ne_runtimeName hresolve hnames)
    have hname : names.typeName ≠ runtimeName := fun heq => h.typeName (heq ▸ htype)
    rw [hparts]
    simp only [Emission.omits_append]
    exact ⟨⟨⟨Emission.omits_tokens.mpr h.attributes, hfront⟩,
      Emission.omits_tokens.mpr h.visibility⟩, hrest.omits hname⟩

/-- **Every reference to the runtime goes through the path to it.**  Whatever the surroundings, a
declaration is refused for the same reason in all of them or generated in all of them.  If it is
generated, its tokens inside the modules are the attributes, a front, the visibility and a rest;
with another path they are the same, the path put for each `::typed_regex` of the front and of
the rest.  A path without the word `typed_regex` leaves none in the front, and in the rest only
the four names of a type that is named so.

Where the user gives no such word, the path can be put for each `::typed_regex` there is among
the tokens, and the word is then in them only if the path has it. -/
theorem runtime_redirected (s : Spec) :
    ((∃ e, ∀ around, (s.generateWith around).answer = .error e) ∨
      ∃ modules front rest, modulesOf s.modulePath = .ok modules ∧
        (∀ visibility attributes,
          (s.generateWith ⟨visibility, attributes, Surroundings.standard.runtime⟩).answer
            = .ok (modules.foldr moduleTokens (attributes ++ front ++ visibility ++ rest))) ∧
        (∀ visibility attributes path, (s.generateWith ⟨visibility, attributes, path⟩).answer
            = .ok (modules.foldr moduleTokens
                (attributes ++ redirect path front ++ visibility ++ redirect path rest))) ∧
        ∀ path, runtimeName ∉ wordsIn path →
          runtimeName ∉ wordsIn (redirect path front) ∧
          (wordsIn (redirect path rest)).count runtimeName
            = if Token.name? s.typeName = some runtimeName then 4 else 0) ∧
    ∀ visibility attributes ts,
      (s.generateWith ⟨visibility, attributes, Surroundings.standard.runtime⟩).answer = .ok ts →
      s.AvoidsRuntime visibility attributes → ∀ path,
        (s.generateWith ⟨visibility, attributes, path⟩).answer = .ok (redirect path ts) ∧
        (runtimeName ∉ wordsIn path → runtimeName ∉ wordsIn (redirect path ts)) := by
  constructor
  · cases hstandard : s.generate.answer with
    | error e =>
        have hchecks := generateWith_error_iff.mp hstandard
        exact .inl ⟨e, fun around => generateWith_error_iff.mpr hchecks⟩
    | ok ts =>
        obtain ⟨r, names, hresolve, hnames, -⟩ := generateWith_ok_iff.mp hstandard
        obtain ⟨htype, hmodules, -⟩ := namesWith_ok_iff.mp hnames
        obtain ⟨front, rest, hfront, hrest, htokens⟩ := exists_tokensWith hresolve hnames
        have hanswer : ∀ around, (s.generateWith around).answer
            = .ok (s.tokensWith names around) := fun around =>
          generateWith_ok_iff.mpr ⟨r, names, hresolve, hnames, rfl⟩
        refine .inr ⟨names.modules, Emission.Piece.fillAll Surroundings.standard.runtime front,
          Emission.Piece.fillAll Surroundings.standard.runtime rest, hmodules,
          fun visibility attributes => ?_, fun visibility attributes path => ?_,
          fun path hpath => ?_⟩
        · rw [hanswer, htokens]
        · rw [hanswer, htokens, hfront.redirect_fillAll path, hrest.redirect_fillAll path]
        · rw [hfront.redirect_fillAll path, hrest.redirect_fillAll path, htype,
            hrest.count_eq hpath]
          refine ⟨hfront.not_mem hpath, ?_⟩
          simp only [Option.some.injEq]
  · intro visibility attributes ts hts havoids path
    obtain ⟨r, names, hresolve, hnames, rfl⟩ := generateWith_ok_iff.mp hts
    have homits : Emission.Omits runtimeName (Emission.Item.allPieces
        (s.itemsWith names ⟨visibility, attributes, path⟩)) :=
      omits_itemsWith havoids hresolve hnames
    have hredirect : redirect path (s.tokensWith names
        ⟨visibility, attributes, Surroundings.standard.runtime⟩)
        = s.tokensWith names ⟨visibility, attributes, path⟩ := homits.redirect_fillAll path
    rw [hredirect]
    exact ⟨generateWith_ok_iff.mpr ⟨r, names, hresolve, hnames, rfl⟩, homits.not_mem⟩

/-- A pattern that holds the usual path, and a group with the name of the runtime: with another
path the name is in no word of the declaration.  Where the type, its module and the visibility
have that name, they keep it, and the path is put for the references to the runtime alone. -/
theorem runtime_redirected_quoted :
    let path : List PlainToken := [.word "crate", .joint ':', .sign ':', .word "rt"]
    let quoted : Spec := ⟨"A", "(?P<typed_regex>::typed_regex)", .standard, ["m"]⟩
    let named : Spec := ⟨runtimeName, "a", .standard, [runtimeName]⟩
    let visibility : List PlainToken :=
      [.word "pub",
       Token.group () .parenthesis (PlainToken.word "in" :: Surroundings.standard.runtime)]
    runtimeName ∉ wordsIn path ∧
      (quoted.AvoidsRuntime [.word "pub"] [] ∧
        ∃ ts, (quoted.generateWith ⟨[.word "pub"], [], Surroundings.standard.runtime⟩).answer
            = .ok ts ∧
          (quoted.generateWith ⟨[.word "pub"], [], path⟩).answer = .ok (redirect path ts) ∧
          runtimeName ∈ wordsIn ts ∧ runtimeName ∉ wordsIn (redirect path ts)) ∧
      ∃ front rest, (named.generateWith ⟨visibility, [], path⟩).answer
          = .ok (moduleTokens runtimeName
              (redirect path front ++ visibility ++ redirect path rest)) ∧
        runtimeName ∉ wordsIn (redirect path front) ∧
        (wordsIn (redirect path rest)).count runtimeName = 4 := by
  intro path quoted named visibility
  have hpath : runtimeName ∉ wordsIn path := by decide
  refine ⟨hpath, ?_, ?_⟩
  · have htype : Token.name? quoted.typeName = some "A" := by decide +kernel
    have hmodule : Token.name? "m" = some "m" := by decide +kernel
    have havoids : quoted.AvoidsRuntime [.word "pub"] [] := by
      refine ⟨?_, List.forall_mem_singleton.mpr ?_, by decide, by decide⟩
      · rw [htype]
        decide
      · rw [hmodule]
        decide
    obtain ⟨ts, hts⟩ := exists_of_isOk
      (x := (quoted.generateWith ⟨[.word "pub"], [], Surroundings.standard.runtime⟩).answer)
      (by decide +kernel)
    have hnamed : (quoted.generateWith
          ⟨[.word "pub"], [], Surroundings.standard.runtime⟩).answer.map
        (fun ts => decide (runtimeName ∈ wordsIn ts)) = .ok true := by
      decide +kernel
    rw [hts] at hnamed
    obtain ⟨hanswer, hclear⟩ := (runtime_redirected quoted).2 [.word "pub"] [] ts hts havoids path
    exact ⟨havoids, ts, hts, hanswer, of_decide_eq_true (Except.ok.inj hnamed), hclear hpath⟩
  · have htype : Token.name? named.typeName = some runtimeName := by decide +kernel
    have hmodules : modulesOf named.modulePath = .ok [runtimeName] := by decide +kernel
    have hok : (named.generateWith ⟨visibility, [], path⟩).answer.isOk = true := by decide +kernel
    rcases (runtime_redirected named).1 with ⟨e, herror⟩ | hgenerated
    · rw [herror] at hok
      cases hok
    · obtain ⟨modules, front, rest, hread, -, hall, hcount⟩ := hgenerated
      obtain rfl : modules = [runtimeName] := Except.ok.inj (hread.symm.trans hmodules)
      obtain ⟨hfront, hrest⟩ := hcount path hpath
      rw [htype, if_pos rfl] at hrest
      exact ⟨front, rest, hall visibility [] path, hfront, hrest⟩

end Spec

end CaptureTypes
