/-
# A path defines nothing

The path to the runtime is any path that can be read, arguments, macros and
function types included, and its tokens stand among those of what is
emitted.  No word at its own level is `struct` or `mod`: names are no
keywords, the other words are given, and the names of lifetimes come after
an apostrophe.  So it is quiet, however deep it is (`isQuiet_of_path?`).

The readers for what is inside a path are a parameter of the others, and
that they read what is quiet is the hypothesis `QuietInside`.  It holds at
every depth because it is kept from one to the next (`quietInside`).
-/
import CaptureTypes.Grammar.Type
import CaptureTypes.Proofs.Definitions
import CaptureTypes.Proofs.Reading

namespace CaptureTypes.Grammar

open Readback

variable {α β : Type}

/-! ## What is read -/

/-- Everything that is read has a property. -/
structure Yields (p : Reading α) (P : α → Prop) : Prop where
  holds : ∀ {i j : Input} {a : α}, p i = .ok (a, j) → P a

namespace Yields

variable {P : α → Prop} {Q : β → Prop}

theorem pure {a : α} (h : P a) : Yields (Pure.pure a : Reading α) P :=
  ⟨fun heq => by cases heq; exact h⟩

theorem bind {p : Reading α} {f : α → Reading β} (hp : Yields p P)
    (hf : ∀ a, P a → Yields (f a) Q) : Yields (p >>= f) Q := by
  refine ⟨fun {i k b} h => ?_⟩
  obtain ⟨a, j, ha, hb⟩ := bind_eq_ok_iff.mp h
  exact (hf a (hp.holds ha)).holds hb

/-- A step about which nothing has to be known. -/
theorem after {p : Reading α} {f : α → Reading β} (hf : ∀ a, Yields (f a) Q) :
    Yields (p >>= f) Q := by
  refine ⟨fun {i k b} h => ?_⟩
  obtain ⟨a, j, -, hb⟩ := bind_eq_ok_iff.mp h
  exact (hf a).holds hb

theorem ite {c : Prop} [Decidable c] {p q : Reading α} (hp : c → Yields p P)
    (hq : ¬ c → Yields q P) : Yields (if c then p else q) P := by
  split
  · exact hp ‹_›
  · exact hq ‹_›

theorem expected (ws : List Wanted) : Yields (Grammar.expected ws : Reading α) P :=
  ⟨fun h => by cases h⟩

/-- A word that is known by looking ahead. -/
theorem seen {test : List SourceToken → Bool} {f : Bool → Reading β} {g : Shape → Reading β}
    (hfalse : Yields (f false) Q) (htrue : f true = anyWord >>= g)
    (hg : ∀ {place : Extent} {s : String} {ts : List SourceToken},
      test (.word place s :: ts) = true → Yields (g [PlainToken.word s]) Q) :
    Yields (Grammar.sees test >>= f) Q := by
  refine ⟨fun {i k b} h => ?_⟩
  rw [sees_bind] at h
  cases htest : test i.tokens with
  | false =>
      rw [htest] at h
      exact hfalse.holds h
  | true =>
      rw [htest, htrue] at h
      obtain ⟨s, j, hs, hb⟩ := bind_eq_ok_iff.mp h
      unfold anyWord at hs
      split at hs
      · rename_i htokens
        cases hs
        rw [htokens] at htest
        exact (hg htest).holds hb
      · cases hs

end Yields

/-- What is printed of something is quiet. -/
abbrev ReadsQuiet (p : Reading Shape) : Prop := Yields p IsQuiet

/-! ## Single tokens -/

theorem ne_of_isName {s : String} (h : Token.isName s = true) : s ≠ "struct" ∧ s ≠ "mod" := by
  constructor
  · rintro rfl
    exact absurd h (by decide)
  · rintro rfl
    exact absurd h (by decide)

theorem quiet_name : ReadsQuiet name := by
  refine ⟨fun {i j s} h => ?_⟩
  obtain ⟨n, k, hn, hs⟩ := bind_eq_ok_iff.mp h
  cases hs
  unfold identifier at hn
  split at hn
  · split at hn
    · rename_i hname
      cases hn
      exact isQuiet_word (ne_of_isName hname).1 (ne_of_isName hname).2
    · cases hn
  · cases hn

theorem quiet_sign {text : String} (h : '\'' ∉ text.toList) : ReadsQuiet (sign text) := by
  refine ⟨fun {i j s} hs => ?_⟩
  unfold sign at hs
  split at hs
  · cases hs
    exact isQuiet_signs h
  · cases hs

theorem quiet_word {text : String} (h : text ≠ "struct" ∧ text ≠ "mod") :
    ReadsQuiet (word text) := by
  refine ⟨fun {i j s} hs => ?_⟩
  unfold word at hs
  split at hs
  · split at hs
    · rename_i heq
      cases hs
      rw [eq_of_beq heq]
      exact isQuiet_word h.1 h.2
    · cases hs
  · cases hs

theorem quiet_sign? {text : String} (h : '\'' ∉ text.toList) : ReadsQuiet (sign? text) :=
  .after fun _ => .ite (fun _ => quiet_sign h) fun _ => .pure isQuiet_nil

theorem quiet_word? {text : String} (h : text ≠ "struct" ∧ text ≠ "mod") :
    ReadsQuiet (word? text) :=
  .after fun _ => .ite (fun _ => quiet_word h) fun _ => .pure isQuiet_nil

theorem quiet_lifetime : ReadsQuiet lifetime := by
  refine ⟨fun {i j s} h => ?_⟩
  unfold lifetime at h
  split at h
  · cases h
    exact isQuiet_lifetime _
  · cases h

theorem quiet_literal : ReadsQuiet literal := by
  refine ⟨fun {i j s} h => ?_⟩
  unfold literal at h
  split at h
  case h_2 => cases h
  case h_1 us hus =>
    cases h
    unfold literal? at hus
    split at hus
    · cases hus
      exact isQuiet_literal _
    · split at hus
      · cases hus
        exact IsQuiet.append (isQuiet_sign (by decide) false) (isQuiet_literal _)
      · cases hus
    · split at hus
      · rename_i htruth
        cases hus
        rcases Bool.or_eq_true_iff.mp htruth with hs | hs
        · rw [eq_of_beq hs]; rfl
        · rw [eq_of_beq hs]; rfl
      · cases hus
    · cases hus

theorem quiet_enclosed (d : Delimiter) (p : Reading Shape) : ReadsQuiet (enclosed d p) :=
  .after fun _ => .pure (isQuiet_group _ _)

/-! ## Lists -/

theorem quiet_listUntil {γ : Type} {stop : List SourceToken → Bool} {separator : String}
    {item : Reading γ} {P : γ → Prop} (h : Yields item P) :
    ∀ n, Yields (listUntil stop separator item n) fun items => ∀ x ∈ items, P x.1
  | 0 => .pure (List.forall_mem_nil _)
  | n + 1 => by
      unfold listUntil
      refine .after fun _ => .ite (fun _ => .pure (List.forall_mem_nil _)) fun _ => ?_
      refine .bind h fun a ha => .after fun _ => .ite (fun _ => ?_) fun _ => ?_
      · exact .pure (List.forall_mem_singleton.mpr ha)
      · refine .after fun _ => .bind (quiet_listUntil h n) fun items hitems => ?_
        exact .pure (List.forall_mem_cons.mpr ⟨ha, hitems⟩)

theorem quiet_listWhile {γ : Type} {stop : List SourceToken → Bool} {separator : String}
    {item : Reading γ} {P : γ → Prop} (h : Yields item P) :
    ∀ n, Yields (listWhile stop separator item n) fun items => ∀ x ∈ items, P x.1
  | 0 => .pure (List.forall_mem_nil _)
  | n + 1 => by
      unfold listWhile
      refine .after fun _ => .ite (fun _ => .pure (List.forall_mem_nil _)) fun _ => ?_
      refine .bind h fun a ha => .after fun _ => .ite (fun _ => ?_) fun _ => ?_
      · exact .pure (List.forall_mem_singleton.mpr ha)
      · refine .after fun _ => .bind (quiet_listWhile h n) fun items hitems => ?_
        exact .pure (List.forall_mem_cons.mpr ⟨ha, hitems⟩)

theorem quiet_separated {γ : Type} {stop : List SourceToken → Bool} {separator : String}
    {item : Reading γ} {P : γ → Prop} (h : Yields item P) :
    Yields (separated stop separator item) fun items => ∀ x ∈ items, P x.1 :=
  .after fun n => quiet_listUntil h n

theorem quiet_chained {γ : Type} {stop : List SourceToken → Bool} {separator : String}
    {item : Reading γ} {P : γ → Prop} (h : Yields item P) :
    Yields (chained stop separator item) fun items => ∀ x ∈ items, P x.1 :=
  .after fun n => quiet_listWhile h n

theorem isQuiet_joined {separator : String} {items : List (Shape × Bool)}
    (hseparator : '\'' ∉ separator.toList) (h : ∀ x ∈ items, IsQuiet x.1) :
    IsQuiet (joined separator items) := by
  refine isQuiet_flatMap fun x hx => IsQuiet.append (h x hx) ?_
  split
  · exact isQuiet_signs hseparator
  · exact isQuiet_nil

/-! ## Arguments and pieces -/

theorem quiet_constant : ReadsQuiet constant := by
  refine .after fun _ => .ite (fun _ => quiet_literal) fun _ => ?_
  refine .after fun _ => .ite (fun _ => quiet_name) fun _ => ⟨fun {i j s} h => ?_⟩
  unfold constant.enclosedOrUnfit at h
  split at h
  · cases h
    exact isQuiet_group _ _
  · cases h

theorem isQuiet_comma {items : Bool} : IsQuiet (if items then [PlainToken.sign ','] else []) := by
  cases items with
  | false => exact isQuiet_nil
  | true => exact isQuiet_sign (by decide) false

theorem isQuiet_orderArguments {items : List ((Shape × Bool) × Bool)}
    (h : ∀ item ∈ items, IsQuiet item.1.1) : IsQuiet (orderArguments items) := by
  refine IsQuiet.append (IsQuiet.append (isQuiet_flatMap fun item hitem => ?_) isQuiet_comma)
    (isQuiet_flatMap fun item hitem => ?_)
  · exact IsQuiet.append (h item (List.mem_filter.mp hitem).1) isQuiet_comma
  · obtain ⟨item, k⟩ := item
    have hmem := List.fst_mem_of_mem_zipIdx hitem
    exact IsQuiet.append (h item (List.mem_filter.mp hmem).1) isQuiet_comma

/-- The words that stand at the start of a piece though they are no names. -/
theorem ne_of_isOneOf {words : List String} (hwords : ∀ w ∈ words, w ≠ "struct" ∧ w ≠ "mod")
    {place : Extent} {s : String} {ts : List SourceToken}
    (h : isOneOf words (.word place s :: ts) = true) : IsQuiet [PlainToken.word s] := by
  obtain ⟨w, hw, hs⟩ := List.any_eq_true.mp h
  rw [eq_of_beq hs]
  exact isQuiet_word (hwords w hw).1 (hwords w hw).2

/-- What is inside a path is read as quiet tokens. -/
structure QuietInside (inside : Inside) : Prop where
  type : ∀ sum, Yields (inside.type sum) fun t => IsQuiet t.shape
  argument : Yields inside.argument fun a => IsQuiet a.1

section

variable {inside : Inside} (hinside : QuietInside inside)

include hinside

theorem quiet_shape (sum : Bool) : ReadsQuiet (inside.shape sum) :=
  .bind (hinside.type sum) fun _ ht => .pure ht

theorem quiet_angled : Yields (angled inside) fun a => IsQuiet a.1 := by
  refine .bind (quiet_sign? (by decide)) fun colons hcolons => ?_
  refine .bind (quiet_sign (by decide)) fun left hleft => ?_
  refine .bind (quiet_separated hinside.argument) fun items hitems => ?_
  refine .bind (quiet_sign (by decide)) fun right hright => ?_
  exact .pure (((hcolons.append hleft).append (isQuiet_orderArguments hitems)).append hright)

theorem quiet_piece : Yields (piece inside) fun p => IsQuiet p.shape := by
  unfold piece
  refine .seen ?_ rfl fun h => .pure (ne_of_isOneOf (by decide) h)
  extract_lets +lift afterHead
  have hhead : ∀ head, IsQuiet head → Yields (afterHead head) fun p => IsQuiet p.shape := by
    intro head hhead
    refine .after fun _ => .ite (fun _ => ?_) fun _ => .pure hhead
    exact .bind (quiet_angled hinside) fun a ha => .pure (hhead.append ha)
  refine .seen (.bind quiet_name hhead) rfl fun h => hhead _ ?_
  rw [eq_of_beq h]
  exact isQuiet_word (by decide) (by decide)

theorem quiet_morePieces : ∀ (n : Nat) {p : PathShape}, IsQuiet p.shape →
    Yields (morePieces inside n p) fun q => IsQuiet q.shape
  | 0, _, hp => .pure hp
  | n + 1, p, hp => by
      unfold morePieces
      refine .after fun _ => .ite (fun _ => .pure hp) fun _ => ?_
      refine .bind (quiet_sign (by decide)) fun colons hcolons => ?_
      refine .bind (quiet_piece hinside) fun q hq => ?_
      exact quiet_morePieces n ((hp.append hcolons).append hq)

theorem quiet_path : Yields (path inside) fun p => IsQuiet p.shape := by
  refine .bind (quiet_sign? (by decide)) fun colons hcolons => ?_
  refine .bind (quiet_piece hinside) fun first hfirst => ?_
  exact .after fun n => quiet_morePieces hinside n (hcolons.append hfirst)

theorem quiet_result : Yields (result inside) fun r => IsQuiet r.1 := by
  refine .after fun _ => .ite (fun _ => ?_) fun _ => .pure isQuiet_nil
  refine .bind (quiet_sign (by decide)) fun arrow harrow => ?_
  exact .bind (hinside.type false) fun t ht => .pure (harrow.append ht)

theorem quiet_call : Yields (call inside) fun c => IsQuiet c.1 := by
  refine .bind (quiet_sign? (by decide)) fun colons hcolons => ?_
  refine .bind (quiet_enclosed _ _) fun inputs hinputs => ?_
  exact .bind (quiet_result hinside) fun r hr => .pure ((hcolons.append hinputs).append hr)

end

/-! ## Lifetimes and bounds -/

theorem quiet_lifetimeBounds (stop : List SourceToken → Bool) :
    ReadsQuiet (lifetimeBounds stop) :=
  .bind (quiet_chained quiet_lifetime) fun _ hitems => .pure (isQuiet_joined (by decide) hitems)

theorem quiet_lifetimeParameter : ReadsQuiet lifetimeParameter := by
  refine .bind quiet_lifetime fun head hhead => ?_
  refine .after fun _ => .ite (fun _ => ?_) fun _ => .pure hhead
  refine .bind (quiet_sign (by decide)) fun colon hcolon => ?_
  exact .bind (quiet_lifetimeBounds _) fun bounds hbounds =>
    .pure ((hhead.append hcolon).append hbounds)

theorem quiet_outerAttributes : ReadsQuiet outerAttributes := by
  have hitem : ReadsQuiet outerAttribute :=
    .bind (quiet_sign (by decide)) fun _ hmark =>
      .bind (quiet_enclosed _ _) fun _ hgroup => .pure (hmark.append hgroup)
  have hrepeated : ∀ n, ReadsQuiet (repeated (isSign "#") outerAttribute n) := by
    intro n
    induction n with
    | zero => exact .pure isQuiet_nil
    | succ n ih =>
        refine .after fun _ => .ite (fun _ => .pure isQuiet_nil) fun _ => ?_
        exact .bind hitem fun _ ha => .bind ih fun _ has => .pure (ha.append has)
  exact .after hrepeated

theorem quiet_binder : ReadsQuiet binder := by
  refine .bind (quiet_word (by decide)) fun mark hmark => ?_
  refine .bind (quiet_sign (by decide)) fun left hleft => ?_
  have hitem : ReadsQuiet (do
      let attributes ← outerAttributes
      if ← sees isLifetime then return attributes ++ (← lifetimeParameter)
      expected [.identifier, .lifetime, .word "const"]) := by
    refine .bind quiet_outerAttributes fun attributes hattributes => ?_
    refine .after fun _ => .ite (fun _ => ?_) fun _ => .expected _
    exact .bind quiet_lifetimeParameter fun _ hparameter => .pure (hattributes.append hparameter)
  refine .bind (quiet_separated hitem) fun items hitems => ?_
  refine .bind (quiet_sign (by decide)) fun right hright => ?_
  exact .pure (((hmark.append hleft).append (isQuiet_joined (by decide) hitems)).append hright)

theorem quiet_binder? : ReadsQuiet binder? :=
  .after fun _ => .ite (fun _ => quiet_binder) fun _ => .pure isQuiet_nil

section

variable {inside : Inside} (hinside : QuietInside inside)

include hinside

theorem quiet_traitBound (constant : Bool) : ReadsQuiet (traitBound inside constant) := by
  refine .bind quiet_binder? fun early hearly => .after fun _ => ?_
  extract_lets +lift afterLimit
  have hlimit : ∀ limit, IsQuiet limit → ReadsQuiet (afterLimit limit) := by
    intro limit hlimit
    refine .bind (quiet_sign? (by decide)) fun maybe hmaybe => ?_
    extract_lets +lift afterLate
    have hlate : ∀ late, IsQuiet late → ReadsQuiet (afterLate late) := by
      intro late hlate
      refine .bind (quiet_path hinside) fun p hp => ?_
      extract_lets +lift afterCall
      have hcall : ∀ arguments, IsQuiet arguments → ReadsQuiet (afterCall arguments) :=
        fun arguments harguments => .pure
          (((((hearly.append hlimit).append hmaybe).append hlate).append hp).append harguments)
      refine .after fun _ => .ite (fun _ => ?_) fun _ => hcall [] isQuiet_nil
      exact .bind (quiet_call hinside) fun c hc => hcall c.1 hc
    exact .ite (fun _ => .bind quiet_binder? hlate) fun _ => hlate [] isQuiet_nil
  refine .ite (fun _ => ?_) fun _ => .ite (fun _ => ?_) fun _ => hlimit [] isQuiet_nil
  · exact .bind (quiet_sign (by decide)) fun s hs => .bind (quiet_word (by decide)) fun w hw =>
      hlimit (s ++ w) (hs.append hw)
  · exact .bind (quiet_word? (by decide)) hlimit

theorem quiet_bound (constant : Bool) : ReadsQuiet (bound inside constant) := by
  refine .after fun _ => .ite (fun _ => quiet_lifetime) fun _ => ?_
  refine .after fun _ => .ite (fun _ => quiet_enclosed _ _) fun _ => ?_
  exact quiet_traitBound hinside constant

theorem quiet_argumentWith : Yields (argumentWith inside) fun a => IsQuiet a.1 := by
  refine .after fun _ => .ite (fun _ => .bind quiet_lifetime fun _ h => .pure h) fun _ => ?_
  refine .after fun _ => .ite (fun _ => .bind quiet_constant fun _ h => .pure h) fun _ => ?_
  refine .bind (hinside.type true) fun t ht => .ite (fun _ => ?_) fun _ => .pure ht
  refine .after fun _ => .ite (fun _ => ?_) fun _ => .after fun _ => .ite (fun _ => ?_) fun _ =>
    .pure ht
  · refine .bind (quiet_sign (by decide)) fun equal hequal => .after fun _ => ?_
    extract_lets +lift afterValue
    have hvalue : ∀ value, IsQuiet value → Yields (afterValue value) fun a => IsQuiet a.1 :=
      fun value hvalue => .pure ((ht.append hequal).append hvalue)
    exact .ite (fun _ => .bind quiet_constant hvalue) fun _ =>
      .bind (quiet_shape hinside true) hvalue
  · refine .bind (quiet_sign (by decide)) fun colon hcolon => ?_
    refine .bind (quiet_chained (quiet_bound hinside true)) fun bounds hbounds => ?_
    exact .pure ((ht.append hcolon).append (isQuiet_joined (by decide) hbounds))

theorem quiet_moreBounds : ∀ n, ReadsQuiet (moreBounds inside n)
  | 0 => .pure isQuiet_nil
  | n + 1 => by
      unfold moreBounds
      refine .after fun _ => .ite (fun _ => .pure isQuiet_nil) fun _ => ?_
      refine .bind (quiet_sign (by decide)) fun plus hplus => ?_
      refine .bind (quiet_bound hinside false) fun next hnext => ?_
      exact .bind (quiet_moreBounds n) fun rest hrest => .pure ((hplus.append hnext).append hrest)

theorem quiet_boundSum (sum constant : Bool) :
    ∀ (n : Nat) (last : Extent), Yields (boundSum inside sum constant last n) fun b => IsQuiet b.1
  | 0, _ => .pure isQuiet_nil
  | n + 1, last => by
      unfold boundSum
      refine .after fun _ => .after fun _ => ?_
      refine .bind (quiet_bound hinside constant) fun first hfirst => .after fun _ => ?_
      refine .ite (fun _ => .pure hfirst) fun _ => ?_
      refine .bind (quiet_sign (by decide)) fun plus hplus => .after fun _ => ?_
      refine .ite (fun _ => .pure (hfirst.append hplus)) fun _ => ?_
      exact .bind (quiet_boundSum sum constant n _) fun rest hrest =>
        .pure ((hfirst.append hplus).append hrest)

theorem quiet_bounds (sum object : Bool) (start : Extent) :
    ReadsQuiet (bounds inside sum object start) := by
  refine .after fun n => .bind (quiet_boundSum hinside sum (!object) n start) fun b hb => ?_
  exact .ite (fun _ => .pure hb) fun _ => ⟨fun h => by cases h⟩

/-! ## Types -/

theorem quiet_moreUnder : ∀ (n : Nat) {p : PathShape}, IsQuiet p.shape →
    Yields (underType.moreUnder inside n p) fun q => IsQuiet q.shape
  | 0, _, hp => .pure hp
  | n + 1, p, hp => by
      unfold underType.moreUnder
      refine .after fun _ => .ite (fun _ => .pure hp) fun _ => ?_
      refine .bind (quiet_sign (by decide)) fun colons hcolons => ?_
      refine .bind (quiet_piece hinside) fun q hq => ?_
      exact quiet_moreUnder n ((hp.append hcolons).append hq)

theorem quiet_underType : Yields (underType inside) fun p => IsQuiet p.shape := by
  refine .bind (quiet_sign (by decide)) fun left hleft => ?_
  refine .bind (quiet_shape hinside true) fun this hthis => .after fun _ => ?_
  extract_lets +lift afterUnder
  have hunder : ∀ under, IsQuiet under → Yields (afterUnder under) fun p => IsQuiet p.shape := by
    intro under hunder
    refine .bind (quiet_sign (by decide)) fun right hright => ?_
    refine .bind (quiet_sign (by decide)) fun colons hcolons => ?_
    refine .bind (quiet_piece hinside) fun first hfirst => .after fun n => ?_
    refine .bind (quiet_moreUnder hinside n hfirst) fun rest hrest => .pure ?_
    exact ((((hleft.append hthis).append hunder).append hright).append hcolons).append hrest
  refine .ite (fun _ => ?_) fun _ => hunder [] isQuiet_nil
  exact .bind (quiet_word (by decide)) fun w hw => .bind (quiet_path hinside) fun p hp =>
    hunder (w ++ p.shape) (hw.append hp)

theorem quiet_calls : ∀ (n : Nat) {p : PathShape}, IsQuiet p.shape →
    Yields (calls inside n p) fun c => IsQuiet c.1.shape
  | 0, _, hp => .pure hp
  | n + 1, p, hp => by
      unfold calls
      refine .after fun _ => .ite (fun _ => .pure hp) fun _ => ?_
      refine .bind (quiet_call hinside) fun c hc => .ite (fun _ => .pure (hp.append hc)) fun _ => ?_
      refine .after fun m => .bind (quiet_morePieces hinside m (hp.append hc)) fun q hq => ?_
      exact .bind (quiet_calls n hq) fun _ h => .pure h

theorem quiet_pathType (sum : Bool) {binders : Shape} (hbinders : IsQuiet binders) :
    Yields (pathType inside sum binders) fun t => IsQuiet t.shape := by
  refine .after fun _ => .ite (fun _ => ?_) fun _ => ?_
  · refine .bind (quiet_underType hinside) fun p hp => .after fun n => ?_
    exact .bind (quiet_calls hinside n hp) fun c hc => .pure (hbinders.append hc)
  refine .bind (quiet_path hinside) fun p hp => .after fun n => ?_
  refine .bind (quiet_calls hinside n hp) fun c hc => ?_
  obtain ⟨q, called⟩ := c
  refine .after fun _ => .ite (fun _ => ?_) fun _ => .after fun _ => .ite (fun _ => ?_) fun _ =>
    .pure hc
  · refine .bind (quiet_sign (by decide)) fun mark hmark => ?_
    refine .bind (P := IsQuiet) ⟨fun {i j s} h => ?_⟩ fun body hbody =>
      .pure (((hbinders.append hc).append hmark).append hbody)
    split at h
    · cases h
      exact isQuiet_group _ _
    · cases h
  · have hpath := hbinders.append hc
    refine .after fun _ => .ite (fun _ => .pure hpath) fun _ => ?_
    refine .bind (quiet_sign (by decide)) fun plus hplus => ?_
    refine .after fun _ => .ite (fun _ => .pure (hpath.append hplus)) fun _ => ?_
    exact .after fun m => .bind (quiet_boundSum hinside true false m _) fun rest hrest =>
      .pure ((hpath.append hplus).append hrest)

theorem quiet_groupedType (sum : Bool) :
    Yields (groupedType inside sum) fun t => IsQuiet t.shape := by
  refine .after fun a => ?_
  obtain ⟨place, t⟩ := a
  have hwhole : IsQuiet [Token.group () .parenthesis t.shape] := isQuiet_group _ _
  have hmore : Yields (do
      return (⟨[Token.group () .parenthesis t.shape] ++ (← moreBounds inside (← room)),
        .bounds false⟩ : TypeShape)) fun t => IsQuiet t.shape :=
    .after fun n => .bind (quiet_moreBounds hinside n) fun _ h => .pure (hwhole.append h)
  dsimp only
  split
  · exact .pure hwhole
  · exact hmore
  · exact .after fun _ => .ite (fun _ => hmore) fun _ => .pure hwhole

theorem quiet_functionType {binders : Shape} (hbinders : IsQuiet binders) :
    Yields (functionType inside binders) fun t => IsQuiet t.shape := by
  refine .bind (quiet_word? (by decide)) fun limit hlimit => ?_
  extract_lets +lift afterLinkage
  have hlinkage : ∀ linkage, IsQuiet linkage →
      Yields (afterLinkage linkage) fun t => IsQuiet t.shape := by
    intro linkage hlinkage
    refine .bind (quiet_word (by decide)) fun head hhead => ?_
    refine .bind (quiet_enclosed _ _) fun inputs hinputs => ?_
    refine .bind (quiet_result hinside) fun output houtput => .pure ?_
    exact ((((hbinders.append hlimit).append hlinkage).append hhead).append hinputs).append houtput
  refine .after fun _ => .ite (fun _ => ?_) fun _ => hlinkage [] isQuiet_nil
  refine .bind (quiet_word (by decide)) fun head hhead => ?_
  extract_lets +lift afterName
  have hname : ∀ abi, IsQuiet abi → Yields (afterName abi) fun t => IsQuiet t.shape :=
    fun abi habi => hlinkage (head ++ abi) (hhead.append habi)
  exact .after fun _ => .ite (fun _ => .bind quiet_literal hname) fun _ => hname [] isQuiet_nil

theorem quiet_pointer {star : Shape} (hstar : IsQuiet star) :
    Yields (pointer inside star) fun t => IsQuiet t.shape := by
  unfold pointer
  extract_lets +lift afterKind
  have hkind : ∀ kind, IsQuiet kind → Yields (afterKind kind) fun t => IsQuiet t.shape :=
    fun kind hkind => .bind (quiet_shape hinside false) fun _ h =>
      .pure ((hstar.append hkind).append h)
  exact .seen (.bind (.expected _) hkind) rfl fun h => hkind _ (ne_of_isOneOf (by decide) h)

theorem quiet_reference : Yields (do
      let mark ← sign "&"
      let life ← if ← sees isLifetime then lifetime else pure []
      let mutable ← word? "mut"
      return (⟨mark ++ life ++ mutable ++ (← inside.shape false), .other⟩ : TypeShape))
    fun t => IsQuiet t.shape := by
  refine .bind (quiet_sign (by decide)) fun mark hmark => ?_
  extract_lets +lift afterLife
  have hlife : ∀ life, IsQuiet life → Yields (afterLife life) fun t => IsQuiet t.shape := by
    intro life hlife
    refine .bind (quiet_word? (by decide)) fun mutable hmutable => ?_
    exact .bind (quiet_shape hinside false) fun _ h =>
      .pure (((hmark.append hlife).append hmutable).append h)
  exact .after fun _ => .ite (fun _ => .bind quiet_lifetime hlife) fun _ => hlife [] isQuiet_nil

theorem quiet_typeWith (sum : Bool) : Yields (typeWith inside sum) fun t => IsQuiet t.shape := by
  refine .bind quiet_binder? fun binders hbinders => .after fun _ => .after fun _ => ?_
  extract_lets +lift afterCheck
  have hcheck : Yields (afterCheck ()) fun t => IsQuiet t.shape := by
    refine .after fun _ => .ite (fun _ => quiet_groupedType hinside sum) fun _ => ?_
    refine .ite (fun _ => quiet_functionType hinside hbinders) fun _ => ?_
    refine .after fun _ => .ite (fun _ => quiet_pathType hinside sum hbinders) fun _ => ?_
    refine .after fun _ => .ite (fun _ => ?traitObject) fun _ => ?_
    case traitObject =>
      refine .after fun start => .bind (quiet_word (by decide)) fun head hhead => ?_
      refine .bind (quiet_sign? (by decide)) fun star hstar => ?_
      exact .bind (quiet_bounds hinside sum true start) fun _ h =>
        .pure ((hhead.append hstar).append h)
    refine .after fun _ => .ite (fun _ => .bind (quiet_enclosed _ _) fun _ h => .pure h) fun _ => ?_
    refine .after fun _ => .ite (fun _ => .bind (quiet_sign (by decide)) fun star hstar =>
      quiet_pointer hinside hstar) fun _ => ?_
    refine .after fun _ => .ite (fun _ => quiet_reference hinside) fun _ => ?_
    refine .after fun _ => .ite (fun _ => .bind (quiet_sign (by decide)) fun _ h => .pure h)
      fun _ => ?_
    refine .after fun _ => .ite (fun _ => ?anyType) fun _ => ?_
    case anyType =>
      refine .after fun start => .bind (quiet_word (by decide)) fun head hhead => ?_
      exact .bind (quiet_bounds hinside sum false start) fun _ h => .pure (hhead.append h)
    refine .seen ?_ rfl fun h => .pure ?_
    · refine .after fun _ => .ite (fun _ => ?_) fun _ => .expected _
      exact .after fun start => .bind (quiet_bounds hinside sum true start) fun _ h => .pure h
    · rw [eq_of_beq h]
      exact isQuiet_word (by decide) (by decide)
  exact .ite (fun _ => .bind (.expected _) fun _ (h : False) => h.elim) fun _ => hcheck

end

/-! ## Any depth -/

theorem quietInside : ∀ depth, QuietInside (inside depth)
  | 0 => ⟨fun _ => .expected _, .expected _⟩
  | depth + 1 =>
    have h := quietInside depth
    ⟨fun sum => quiet_typeWith h sum, quiet_argumentWith h⟩

theorem quiet_fullPath : ReadsQuiet fullPath := by
  have hhere : Yields insideHere QuietInside := ⟨fun h => by cases h; exact quietInside _⟩
  exact .bind hhere fun _ h => .bind (quiet_path h) fun _ hp => .pure hp

/-- **A path is quiet.** -/
theorem isQuiet_of_path? {text : String} {shape : Shape} (h : path? text = some shape) :
    IsQuiet shape := by
  unfold path? readText readTokens at h
  split at h
  · rename_i s hs
    cases h
    split at hs
    · cases hs
    · split at hs
      · cases hs
      · rename_i a i ha
        split at hs
        · cases hs
        · cases hs
          exact quiet_fullPath.holds ha
  · cases h

end CaptureTypes.Grammar
