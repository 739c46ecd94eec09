/-
# Reading consumes a front part

Every reader of the grammar leaves an end of the tokens that it was given:
it takes tokens from the front and nothing else.  This is kept by all ways
to put readers together, so that it is found for a reader by going through
its parts; `Consumes` is a class, and the parts are its instances.

The readers for what is inside a path are a parameter of the others.  They
consume at every depth (`consumesInside`).
-/
import CaptureTypes.Grammar.Placeholder
import CaptureTypes.Proofs.Reading

namespace CaptureTypes.Grammar

variable {α β : Type}

/-- What a reader leaves is an end of what it was given. -/
class Consumes (p : Reading α) : Prop where
  suffix : ∀ {i j : Input} {a : α}, p i = .ok (a, j) → j.tokens <:+ i.tokens

namespace Consumes

instance pure (a : α) : Consumes (Pure.pure a : Reading α) :=
  ⟨fun h => by cases h; exact List.suffix_rfl⟩

theorem after {p : Reading α} {f : α → Reading β} [hp : Consumes p] (hf : ∀ a, Consumes (f a)) :
    Consumes (p >>= f) := by
  refine ⟨fun {i k b} h => ?_⟩
  obtain ⟨a, j, ha, hb⟩ := bind_eq_ok_iff.mp h
  exact ((hf a).suffix hb).trans (hp.suffix ha)

instance bind {p : Reading α} {f : α → Reading β} [Consumes p] [hf : ∀ a, Consumes (f a)] :
    Consumes (p >>= f) := after hf

theorem either {c : Prop} [Decidable c] {p q : Reading α} (hp : Consumes p) (hq : Consumes q) :
    Consumes (if c then p else q) := by
  split
  · exact hp
  · exact hq

instance ite {c : Prop} [Decidable c] {p q : Reading α} [hp : Consumes p] [hq : Consumes q] :
    Consumes (if c then p else q) := either hp hq

instance sees (test : List SourceToken → Bool) : Consumes (Grammar.sees test) :=
  ⟨fun h => by cases h; exact List.suffix_rfl⟩

instance expected (ws : List Wanted) : Consumes (Grammar.expected ws : Reading α) :=
  ⟨fun h => by cases h⟩

instance error (c : Input → Complaint) : Consumes (fun i => .error (c i) : Reading α) :=
  ⟨fun h => by cases h⟩

instance room : Consumes Grammar.room := ⟨fun h => by cases h; exact List.suffix_rfl⟩

end Consumes

/-! ## Single tokens -/

theorem suffix_afterSigns? {cs : List Char} {ts us : List SourceToken}
    (h : afterSigns? cs ts = some us) : us <:+ ts := by
  fun_induction afterSigns? cs ts with
  | case1 => cases h; exact List.suffix_rfl
  | case3 => cases h; exact List.suffix_cons _ _
  | case4 _ _ _ _ _ _ _ ih => exact (ih h).trans (List.suffix_cons _ _)
  | case2 | case5 | case6 => cases h

instance consumes_sign (text : String) : Consumes (sign text) := by
  refine ⟨fun {i j s} h => ?_⟩
  unfold sign at h
  split at h
  · rename_i ts hts
    cases h
    exact suffix_afterSigns? hts
  · cases h

section

variable {i j : Input}

/-- An operator of one character is one sign. -/
theorem tokens_of_sign {text : String} {c : Char} {s : Shape} (htext : text.toList = [c])
    (h : sign text i = .ok (s, j)) : ∃ e joint, i.tokens = .sign e c joint :: j.tokens := by
  unfold sign afterSign? at h
  rw [htext] at h
  cases hi : i.tokens with
  | nil => rw [hi] at h; cases h
  | cons t ts =>
      rw [hi] at h
      cases t with
      | word | literal | group => cases h
      | sign e d joint =>
          rw [afterSigns?] at h
          split at h
          · rename_i us hus
            cases h
            split at hus
            · cases hus
            · rename_i hd
              cases hus
              exact ⟨e, joint, by rw [Decidable.not_not.mp hd]⟩
          · cases h

theorem tokens_of_word {text : String} {s : Shape} (h : word text i = .ok (s, j)) :
    ∃ e, i.tokens = .word e text :: j.tokens := by
  unfold word at h
  split at h
  · rename_i hi
    split at h
    · rename_i htext
      cases h
      exact ⟨_, eq_of_beq htext ▸ hi⟩
    · cases h
  · cases h

theorem tokens_of_identifier {s : String} (h : identifier i = .ok (s, j)) :
    ∃ e, i.tokens = .word e s :: j.tokens := by
  unfold identifier at h
  split at h
  · rename_i hi
    split at h
    · cases h
      exact ⟨_, hi⟩
    · cases h
  · cases h

/-- A group is taken, whatever is read inside. -/
theorem tokens_of_within {d : Delimiter} {p : Reading α} {e : Extent} {a : α}
    (h : within d p i = .ok ((e, a), j)) : ∃ inner, i.tokens = .group e d inner :: j.tokens := by
  unfold within at h
  split at h
  · rename_i hi
    split at h
    · rename_i hd
      split at h
      · cases h
      · cases h
        exact ⟨_, hd ▸ hi⟩
    · cases h
  · cases h

end

instance consumes_word (text : String) : Consumes (word text) := by
  refine ⟨fun h => ?_⟩
  obtain ⟨_, hi⟩ := tokens_of_word h
  exact hi ▸ List.suffix_cons _ _

instance consumes_identifier : Consumes identifier := by
  refine ⟨fun h => ?_⟩
  obtain ⟨_, hi⟩ := tokens_of_identifier h
  exact hi ▸ List.suffix_cons _ _

instance consumes_within (d : Delimiter) (p : Reading α) : Consumes (within d p) := by
  refine ⟨fun h => ?_⟩
  obtain ⟨_, hi⟩ := tokens_of_within h
  exact hi ▸ List.suffix_cons _ _

instance consumes_anyWord : Consumes anyWord := by
  refine ⟨fun {i j s} h => ?_⟩
  unfold anyWord at h
  split at h
  · rename_i hi
    cases h
    exact hi ▸ List.suffix_cons _ _
  · cases h

instance consumes_lifetime : Consumes lifetime := by
  refine ⟨fun {i j s} h => ?_⟩
  unfold lifetime at h
  split at h
  · rename_i hi
    cases h
    exact hi ▸ List.suffix_append [_, _] _
  · cases h

theorem suffix_literal? {ts us : List SourceToken} {s : Shape} (h : literal? ts = some (s, us)) :
    us <:+ ts := by
  unfold literal? at h
  split at h
  · cases h
    exact List.suffix_cons _ _
  · split at h
    · cases h
      exact List.suffix_append [_, _] _
    · cases h
  · split at h
    · cases h
      exact List.suffix_cons _ _
    · cases h
  · cases h

instance consumes_literal : Consumes literal := by
  refine ⟨fun {i j s} h => ?_⟩
  unfold literal at h
  split at h
  · rename_i ts hts
    cases h
    exact suffix_literal? hts
  · cases h

instance consumes_name : Consumes name := by unfold name; infer_instance

instance consumes_sign? (text : String) : Consumes (sign? text) := by unfold sign?; infer_instance

instance consumes_word? (text : String) : Consumes (word? text) := by unfold word?; infer_instance

/-! ## Groups and lists -/

instance consumes_enclosed (d : Delimiter) (p : Reading Shape) : Consumes (enclosed d p) := by
  unfold enclosed
  infer_instance

section

variable {stop : List SourceToken → Bool} {separator : String} {item : Reading α} [Consumes item]

instance consumes_listUntil (n : Nat) : Consumes (listUntil stop separator item n) := by
  induction n with
  | zero => exact .pure _
  | succ n ih =>
      unfold listUntil
      infer_instance

instance consumes_listWhile (n : Nat) : Consumes (listWhile stop separator item n) := by
  induction n with
  | zero => exact .pure _
  | succ n ih =>
      unfold listWhile
      infer_instance

instance consumes_separated : Consumes (separated stop separator item) := by
  unfold separated
  infer_instance

instance consumes_chained : Consumes (chained stop separator item) := by
  unfold chained
  infer_instance

end

instance consumes_repeated (starts : List SourceToken → Bool) (item : Reading Shape)
    [Consumes item] (n : Nat) : Consumes (repeated starts item n) := by
  induction n with
  | zero => exact .pure _
  | succ n ih =>
      unfold repeated
      infer_instance

/-! ## Attributes and visibility -/

instance consumes_outerAttribute : Consumes outerAttribute := by
  unfold outerAttribute
  infer_instance

instance consumes_outerAttributes : Consumes outerAttributes := by
  unfold outerAttributes
  infer_instance

instance consumes_visibility : Consumes visibility := by
  unfold visibility
  infer_instance

/-! ## Paths and bounds -/

-- Where a reader branches in its middle, what comes after is put into each branch by `dsimp`, and
-- is searched as often.
set_option synthInstance.maxSize 2000

/-- The readers for what is inside consume a front part. -/
class ConsumesInside (inside : Inside) : Prop where
  type : ∀ sum, Consumes (inside.type sum)
  argument : Consumes inside.argument

attribute [instance] ConsumesInside.type ConsumesInside.argument

instance consumes_block : Consumes constant.enclosedOrUnfit := by
  refine ⟨fun {i j s} h => ?_⟩
  unfold constant.enclosedOrUnfit at h
  split at h
  · rename_i hi
    cases h
    exact hi ▸ List.suffix_cons _ _
  · cases h

instance consumes_constant : Consumes constant := by
  dsimp only [constant]
  infer_instance

section

variable (inside : Inside) [ConsumesInside inside]

instance consumes_shape (sum : Bool) : Consumes (inside.shape sum) := by
  dsimp only [Inside.shape]
  infer_instance

instance consumes_angled : Consumes (angled inside) := by
  dsimp only [angled]
  infer_instance

instance consumes_piece : Consumes (piece inside) := by
  dsimp only [piece]
  infer_instance

instance consumes_morePieces (n : Nat) (p : PathShape) : Consumes (morePieces inside n p) := by
  induction n generalizing p with
  | zero => exact .pure _
  | succ n ih =>
      dsimp only [morePieces]
      infer_instance

instance consumes_path : Consumes (path inside) := by
  dsimp only [path]
  infer_instance

instance consumes_result : Consumes (result inside) := by
  dsimp only [result]
  infer_instance

instance consumes_call : Consumes (call inside) := by
  dsimp only [call]
  infer_instance

instance consumes_lifetimeBounds (stop : List SourceToken → Bool) :
    Consumes (lifetimeBounds stop) := by
  dsimp only [lifetimeBounds]
  infer_instance

instance consumes_lifetimeParameter : Consumes lifetimeParameter := by
  dsimp only [lifetimeParameter]
  infer_instance

instance consumes_binder : Consumes binder := by
  dsimp only [binder]
  infer_instance

instance consumes_binder? : Consumes binder? := by
  dsimp only [binder?]
  infer_instance

instance consumes_traitBound (constant : Bool) : Consumes (traitBound inside constant) := by
  dsimp only [traitBound]
  infer_instance

instance consumes_bound (constant : Bool) : Consumes (bound inside constant) := by
  dsimp only [bound]
  infer_instance

/-! ## Types -/

instance consumes_frontExtent : Consumes frontExtent := by
  refine ⟨fun {i j e} h => ?_⟩
  unfold frontExtent at h
  split at h <;> (cases h; exact List.suffix_rfl)

instance consumes_argumentWith : Consumes (argumentWith inside) := by
  dsimp only [argumentWith]
  infer_instance

instance consumes_moreBounds (n : Nat) : Consumes (moreBounds inside n) := by
  induction n with
  | zero => exact .pure _
  | succ n ih =>
      dsimp only [moreBounds]
      infer_instance

instance consumes_boundSum (sum constant : Bool) (last : Extent) (n : Nat) :
    Consumes (boundSum inside sum constant last n) := by
  induction n generalizing last with
  | zero => exact .pure _
  | succ n ih =>
      dsimp only [boundSum]
      infer_instance

instance consumes_bounds (sum object : Bool) (start : Extent) :
    Consumes (bounds inside sum object start) := by
  dsimp only [bounds]
  infer_instance

instance consumes_moreUnder (n : Nat) (p : PathShape) :
    Consumes (underType.moreUnder inside n p) := by
  induction n generalizing p with
  | zero => exact .pure _
  | succ n ih =>
      dsimp only [underType.moreUnder]
      infer_instance

instance consumes_underType : Consumes (underType inside) := by
  dsimp only [underType]
  infer_instance

instance consumes_calls (n : Nat) (p : PathShape) : Consumes (calls inside n p) := by
  induction n generalizing p with
  | zero => exact .pure _
  | succ n ih =>
      dsimp only [calls]
      infer_instance

/-- What stands after the name of a macro. -/
instance consumes_macroGroup : Consumes fun i =>
    match i.tokens with
    | .group place d inner :: ts =>
      .ok ([(Token.group place d inner).plain], { i with tokens := ts })
    | _ => .error (i.complain [.group .parenthesis]) := by
  refine ⟨fun {i j s} h => ?_⟩
  split at h
  · rename_i hi
    cases h
    exact hi ▸ List.suffix_cons _ _
  · cases h

instance consumes_pathType (sum : Bool) (binders : Shape) :
    Consumes (pathType inside sum binders) := by
  dsimp only [pathType]
  infer_instance

instance consumes_groupedType (sum : Bool) : Consumes (groupedType inside sum) := by
  dsimp only [groupedType]
  refine .after fun a => ?_
  split <;> infer_instance

instance consumes_functionType (binders : Shape) : Consumes (functionType inside binders) := by
  dsimp only [functionType]
  infer_instance

instance consumes_pointer (star : Shape) : Consumes (pointer inside star) := by
  dsimp only [pointer]
  infer_instance

instance consumes_typeWith (sum : Bool) : Consumes (typeWith inside sum) := by
  unfold typeWith
  refine .after fun binders => .after fun isFunction => .after fun isPath => ?_
  extract_lets +lift afterCheck
  have hcheck : Consumes (afterCheck ()) := by
    refine .after fun _ => .either inferInstance (.either inferInstance ?_)
    refine .after fun _ => .either inferInstance (.after fun _ => .either inferInstance ?_)
    refine .after fun _ => .either inferInstance (.after fun _ => .either inferInstance ?_)
    refine .after fun _ => .either ?_ ?_
    · dsimp only
      infer_instance
    · infer_instance
  exact .either (.after fun _ => hcheck) hcheck

end

instance consumesInside (depth : Nat) : ConsumesInside (inside depth) := by
  induction depth with
  | zero => exact ⟨fun _ => .expected _, .expected _⟩
  | succ depth ih => exact ⟨consumes_typeWith _, consumes_argumentWith _⟩

/-! ## Parts of a struct -/

section

variable (inside : Inside) [ConsumesInside inside]

instance consumes_parameter : Consumes (parameter inside) := by
  dsimp only [parameter, boundsAfterColon]
  refine .after fun _ => .after fun _ => .either inferInstance ?_
  refine .after fun _ => .either ?_ inferInstance
  infer_instance

instance consumes_condition : Consumes (condition inside) := by
  dsimp only [condition]
  infer_instance

end

end CaptureTypes.Grammar
