/-
# What a document says of options

A document of options is an object, whose members are taken by their names,
or an array, whose items are taken in the order of the toggles.  Either way
it gives values to some toggles by name (`members?`), and what it says is
told toggle by toggle (`Says`): a toggle that is given once, as a truth
value, has this value, and one that is not given has its standard value.
Nothing else is said: a document that gives a toggle twice, or gives it
another value than a truth value, says nothing of any options, and a member
with a name that no toggle has plays no part.

The members are read one after the other, each into the options that the
ones before it made.  `Changes` tells what is left to do for each toggle; it
is what one member preserves, known or unknown, and so what all of them make
(`decodeMembers_iff`).  The items of an array are members whose names were
left out (`decodeItems_eq`).
-/
import CaptureTypes.Proofs.Layout

namespace CaptureTypes.Options

open Json (Tree Writes)

/-- The values that a document gives, by name. -/
def members? : Tree → Option (List (String × Tree))
  | .object ms => some ms
  | .array ts => if ts.length ≤ Toggle.all.length then some (Toggle.names.zip ts) else none
  | _ => none

/-- The values that members give to one toggle. -/
def given (t : Toggle) (ms : List (String × Tree)) : List Tree :=
  (ms.filter fun m => m.1 == t.name).map Prod.snd

/-- A document says that toggles have certain values, and of a toggle that is not given, that it
has its standard value. -/
def Says (doc : Tree) (o : Options) : Prop :=
  ∃ ms, members? doc = some ms ∧
    ∀ t, given t ms = [.bool (o.get t)] ∨ given t ms = [] ∧ o.get t = t.standard

/-! ## Members of an object -/

section Members

variable {before after : Options} {seen : List String} {ms : List (String × Tree)} {key : String}
  {value : Tree} {u : Toggle}

theorem given_cons_name : given u ((u.name, value) :: ms) = value :: given u ms := by
  simp [given]

theorem given_cons_of_ne (h : key ≠ u.name) : given u ((key, value) :: ms) = given u ms := by
  simp [given, h]

theorem put_name (t : Toggle) (value : Tree) :
    meaning.put t.name value = value.truth?.map fun b o => o.set t b := by
  show put t.name value = _
  rw [put, t.named?_name, Option.bind_some]

/-- What members make of options after the toggles of some names were given: a toggle that they
give is given once and was not given before, any other keeps its value. -/
def Changes (seen : List String) (ms : List (String × Tree)) (before after : Options) : Prop :=
  ∀ t : Toggle, given t ms = [.bool (after.get t)] ∧ t.name ∉ seen ∨
    given t ms = [] ∧ after.get t = before.get t

theorem changes_nil : Changes seen [] before after ↔ before = after := by
  constructor
  · intro h
    refine ext_get fun t => ?_
    rcases h t with ⟨hgiven, -⟩ | ⟨-, hkept⟩
    · cases hgiven
    · exact hkept.symm
  · rintro rfl t
    exact .inr ⟨rfl, rfl⟩

theorem changes_unknown (h : key ∉ Toggle.names) :
    Changes seen ((key, value) :: ms) before after ↔ Changes seen ms before after := by
  refine forall_congr' fun t => ?_
  rw [given_cons_of_ne (ne_of_mem_of_not_mem t.name_mem_names h).symm]

/-- A truth value is written to its toggle, which must not be given again. -/
theorem changes_bool {b : Bool} (h : u.name ∉ seen) :
    Changes seen ((u.name, .bool b) :: ms) before after ↔
      Changes (u.name :: seen) ms (before.set u b) after := by
  refine forall_congr' fun t => ?_
  rw [get_set]
  by_cases ht : t = u
  · subst ht
    rw [given_cons_name, if_pos rfl]
    constructor
    · rintro (⟨hgiven, -⟩ | ⟨hnone, -⟩)
      · obtain ⟨hvalue, hrest⟩ := List.cons.inj hgiven
        exact .inr ⟨hrest, (Tree.bool.inj hvalue).symm⟩
      · cases hnone
    · rintro (⟨-, hunseen⟩ | ⟨hrest, hvalue⟩)
      · exact absurd List.mem_cons_self hunseen
      · exact .inl ⟨by rw [hrest, hvalue], h⟩
  · have hname : u.name ≠ t.name := fun h => ht (Toggle.name_inj h.symm)
    have hseen : t.name ∉ u.name :: seen ↔ t.name ∉ seen := by
      rw [List.mem_cons, or_iff_right hname.symm]
    rw [given_cons_of_ne hname, if_neg ht, hseen]

/-- Members that make options give a toggle a truth value, and not again. -/
theorem Changes.given_head (h : Changes seen ((u.name, value) :: ms) before after) :
    value = .bool (after.get u) ∧ u.name ∉ seen := by
  rcases h u with ⟨hgiven, hunseen⟩ | ⟨hnone, -⟩
  · rw [given_cons_name] at hgiven
    exact ⟨(List.cons.inj hgiven).1, hunseen⟩
  · rw [given_cons_name] at hnone
    cases hnone

/-- **Members make what they give**, whatever their order and whatever stands between them. -/
theorem decodeMembers_iff :
    (∃ seen', meaning.decodeMembers seen before ms = some (seen', after)) ↔
      Changes seen ms before after := by
  induction ms generalizing seen before with
  | nil =>
      rw [changes_nil, Json.Form.Meaning.decodeMembers]
      constructor
      · rintro ⟨seen', h⟩
        cases h
        rfl
      · rintro rfl
        exact ⟨seen, rfl⟩
  | cons m ms ih =>
      obtain ⟨key, value⟩ := m
      by_cases hknown : key ∈ Toggle.names
      · obtain ⟨u, -, rfl⟩ := List.mem_map.mp hknown
        rw [Json.Form.Meaning.decodeMembers, if_pos (find?_field u), put_name]
        split
        · rename_i hseen
          have hno : ¬ Changes seen ((u.name, value) :: ms) before after :=
            fun h => h.given_head.2 (List.contains_iff_mem.mp hseen)
          exact iff_of_false (by rintro ⟨seen', h⟩; cases h) hno
        · rename_i hseen
          have hunseen : u.name ∉ seen := mt List.contains_iff_mem.mpr hseen
          cases value with
          | bool b => exact ih.trans (changes_bool hunseen).symm
          | null | number | text | array | object =>
              refine iff_of_false ?_ fun h => ?_
              · rintro ⟨seen', h⟩
                cases h
              · cases h.given_head.1
      · rw [Json.Form.Meaning.decodeMembers, find?_field_eq_none hknown]
        exact ih.trans (changes_unknown hknown).symm

end Members

/-! ## Items of an array -/

/-- Items are members whose names were left out: they are read as the members with the names of
as many toggles. -/
theorem decodeItems_eq {toggles : List Toggle} (hnodup : toggles.Nodup) {seen : List String}
    (hfresh : ∀ t ∈ toggles, t.name ∉ seen) (o : Options) (ts : List Tree) :
    meaning.decodeItems (toggles.map Toggle.field) o ts =
      if ts.length ≤ toggles.length then
        (meaning.decodeMembers seen o ((toggles.map Toggle.name).zip ts)).map Prod.snd
      else none := by
  induction toggles generalizing seen o ts with
  | nil =>
      cases ts with
      | nil => rfl
      | cons t ts => rfl
  | cons u toggles ih =>
      obtain ⟨hu, hnodup⟩ := List.nodup_cons.mp hnodup
      obtain ⟨hunseen, hfresh⟩ := List.forall_mem_cons.mp hfresh
      cases ts with
      | nil =>
          have hrest := ih hnodup hfresh o []
          simp only [List.length_nil, Nat.zero_le, if_true, List.zip_nil_right] at hrest ⊢
          exact hrest
      | cons value ts =>
          have hfresh' : ∀ t ∈ toggles, t.name ∉ u.name :: seen := by
            intro t ht hseen
            rcases List.mem_cons.mp hseen with hname | hseen
            · exact hu (Toggle.name_inj hname ▸ ht)
            · exact hfresh t ht hseen
          have hcontains : ¬ seen.contains u.name = true := mt List.contains_iff_mem.mp hunseen
          simp only [List.map_cons, List.zip_cons_cons, List.length_cons, Nat.add_le_add_iff_right,
            Json.Form.Meaning.decodeItems, Json.Form.Meaning.decodeMembers, find?_field, if_true,
            if_neg hcontains]
          show (meaning.put u.name value).bind _ = _
          cases meaning.put u.name value with
          | none => simp
          | some change => exact ih hnodup hfresh' (change o) ts

/-! ## Whole documents -/

/-- No toggle has to be given. -/
theorem complete?_form (x : List String × Options) :
    Json.Form.Meaning.complete? form x = some x.2 := by
  have hnone : form.fields.find? (fun f => !f.optional && !x.1.contains f.name) = none := by
    refine List.find?_eq_none.mpr fun f hf => ?_
    obtain ⟨t, -, rfl⟩ := List.mem_map.mp hf
    exact Bool.false_ne_true
  rw [Json.Form.Meaning.complete?, Json.Form.missing?, hnone]
  rfl

/-- A document is read by the values that it gives, however it gives them. -/
theorem decode_eq_bind (doc : Tree) :
    meaning.decode doc
      = (members? doc).bind fun ms => (meaning.decodeMembers [] standard ms).map Prod.snd := by
  cases doc with
  | object ms =>
      have hcomplete : Json.Form.Meaning.complete? form = some ∘ Prod.snd := funext complete?_form
      rw [Json.Form.Meaning.decode, hcomplete, members?, Option.bind_some, Option.map_eq_bind]
      rfl
  | array ts =>
      have hitems : meaning.decode (.array ts) = if ts.length ≤ Toggle.all.length then
          (meaning.decodeMembers [] standard (Toggle.names.zip ts)).map Prod.snd else none :=
        decodeItems_eq (by decide) (fun t _ => List.not_mem_nil) standard ts
      rw [hitems, members?]
      split
      · rfl
      · rfl
  | null | bool | number | text => rfl

/-- **A document is read as the options that it says.** -/
theorem decode_eq_some_iff {doc : Tree} {o : Options} :
    meaning.decode doc = some o ↔ Says doc o := by
  have hsays : ∀ ms, (meaning.decodeMembers [] standard ms).map Prod.snd = some o ↔
      ∀ t, given t ms = [.bool (o.get t)] ∨ given t ms = [] ∧ o.get t = t.standard := by
    intro ms
    have hmembers : (∃ seen, meaning.decodeMembers [] standard ms = some (seen, o)) ↔
        Changes [] ms standard o := decodeMembers_iff
    simp only [Changes, List.not_mem_nil, not_false_eq_true, and_true, get_standard] at hmembers
    rw [← hmembers, Option.map_eq_some_iff]
    constructor
    · rintro ⟨⟨seen, p⟩, h, rfl⟩
      exact ⟨seen, h⟩
    · rintro ⟨seen, h⟩
      exact ⟨_, h, rfl⟩
  rw [decode_eq_bind, Option.bind_eq_some_iff]
  exact exists_congr fun ms => and_congr_right fun _ => hsays ms

/-- A text is read as the options that the document in it says. -/
theorem parse_eq_ok_iff {doc : Tree} {text : String} (h : Writes doc text) {o : Options} :
    form.parse text = .ok o ↔ Says doc o :=
  (meaning.parse_eq_ok_iff h).trans decode_eq_some_iff

/-- What options are written as is read as the options. -/
theorem parse_toText (o : Options) : form.parse o.toJson.toText = .ok o :=
  (meaning.parse_eq_ok_iff (Json.writes_toText _)).mpr
    (Json.Form.Meaning.decode_of_isLayout o.parts o.isLayout_toJson)

end CaptureTypes.Options
