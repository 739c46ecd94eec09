/-
# What a form makes of a value

A form reads a structure from left to right; what it reads is told here
from the value as a tree.  `Reads` ties a reading to a decoding of trees:
wherever a value is spelled, the reading answers what the decoding answers
and leaves what follows the value, or it fails where the decoding has no
answer.  A form whose fields are so tied is tied as a whole (`reads_form`),
and then a text that writes a value is parsed iff the value is decoded
(`parse_eq_ok_iff`).

The decoding of an object (`Meaning.decodeMembers`) takes its members in
order: a known one is decoded and may not come again, an unknown one is
dropped.
-/
import CaptureTypes.Json.Form
import CaptureTypes.Proofs.JsonPass

namespace CaptureTypes.Json

open Reader

variable {α β : Type}

/-! ## Answers -/

/-- A reader gives what is expected, or fails where nothing is. -/
def Agrees (x : Except Fault (α × Reader)) (answer : Option α) (rest : List Char) : Prop :=
  match answer with
  | some a => Gives x a rest
  | none => ∃ e, x = .error e

theorem agrees_ok {a : α} {r : Reader} {rest : List Char} (h : r.rest = rest) :
    Agrees (.ok (a, r)) (some a) rest := ⟨r, rfl, h⟩

theorem agrees_error (e : Fault) (rest : List Char) :
    Agrees (.error e : Except Fault (α × Reader)) none rest := ⟨e, rfl⟩

theorem failWhole_eq_error (r : Reader) (close : Char) (cause : Cause) :
    ∃ e, (r.failWhole close cause : Except Fault α) = .error e := by
  simp only [failWhole]
  split
  · exact ⟨_, rfl⟩
  · exact ⟨_, rfl⟩

theorem Agrees.bind {x : Except Fault (α × Reader)} {answer : Option α} {mid rest : List Char}
    {f : α × Reader → Except Fault (β × Reader)} {g : α → Option β} (h : Agrees x answer mid)
    (hf : ∀ a r, r.rest = mid → Agrees (f (a, r)) (g a) rest) :
    Agrees (x >>= f) (answer.bind g) rest := by
  cases answer with
  | none =>
      obtain ⟨e, rfl⟩ := h
      exact agrees_error e rest
  | some a =>
      obtain ⟨r, rfl, hr⟩ := h
      exact hf a r hr

theorem Agrees.map {x : Except Fault (α × Reader)} {answer : Option α} {rest : List Char}
    {f : α × Reader → Except Fault (β × Reader)} {g : α → β} (h : Agrees x answer rest)
    (hf : ∀ a r, f (a, r) = .ok (g a, r)) : Agrees (x >>= f) (answer.map g) rest := by
  cases answer with
  | none =>
      obtain ⟨e, rfl⟩ := h
      exact agrees_error e rest
  | some a =>
      obtain ⟨r, rfl, hr⟩ := h
      exact ⟨r, hf a r, hr⟩

/-- A reading reads what a decoding answers, wherever a value is spelled. -/
def Reads (p : Reading α) (decode : Tree → Option α) : Prop :=
  ∀ ⦃t : Tree⦄ ⦃value ws rest : List Char⦄ ⦃r : Reader⦄, Spells t value → IsBlank ws →
    IsStop rest → r.rest = ws ++ (value ++ rest) → Agrees (p r) (decode t) rest

theorem Reads.map {p : Reading α} {decode : Tree → Option α} (h : Reads p decode) (g : α → β) :
    Reads (fun r => p r >>= fun x => .ok (g x.1, x.2)) fun t => (decode t).map g :=
  fun _ _ _ _ _ ht hws hrest hr => (h ht hws hrest hr).map fun _ _ => rfl

/-! ## Texts and truth values -/

namespace Tree

/-- The text that a value is. -/
def text? : Tree → Option String
  | .text s => some s
  | _ => none

/-- The truth value that a value is. -/
def truth? : Tree → Option Bool
  | .bool b => some b
  | _ => none

/-- The items of the array that a value is. -/
def items? : Tree → Option (List Tree)
  | .array ts => some ts
  | _ => none

/-- The members of the object that a value is. -/
def members? : Tree → Option (List (String × Tree))
  | .object ms => some ms
  | _ => none

end Tree

/-- The first character of a value tells its kind. -/
theorem Spells.first_tells {t : Tree} {value : List Char} (h : Spells t value) :
    ∃ c cs, value = c :: cs ∧ IsStart c ∧ (c = '"' → t.text?.isSome) ∧
      (c = 't' ∨ c = 'f' → t.truth?.isSome) ∧ (c = '[' → t.items?.isSome) ∧
      (c = '\x7b' → t.members?.isSome) := by
  obtain ⟨c, cs, rfl, hc⟩ := h.exists_cons
  refine ⟨c, cs, rfl, hc, ?_⟩
  cases h with
  | null | true | false | text | array | object =>
      simp [Tree.text?, Tree.truth?, Tree.items?, Tree.members?]
  | number hnumber =>
      have hne : c ≠ '"' ∧ c ≠ 't' ∧ c ≠ 'f' ∧ c ≠ '[' ∧ c ≠ '\x7b' := by
        rcases hnumber with hunsigned | ⟨rest, -, hminus⟩
        · obtain ⟨d, rest, heq, hd⟩ := hunsigned.exists_cons
          cases heq
          refine ⟨?_, ?_, ?_, ?_, ?_⟩
          all_goals
            rintro rfl
            cases hd
        · cases hminus
          decide
      obtain ⟨htext, ht, hf, harray, hobject⟩ := hne
      simp [htext, ht, hf, harray, hobject]

theorem reads_text : Reads Reader.text Tree.text? := by
  intro t value ws rest r h hws hrest hr
  have hfirst := h.first_tells
  cases h with
  | text hwritten =>
      simp only [List.cons_append, List.append_assoc, List.nil_append] at hr
      have hskip := rest_skip hws (by decide) hr
      simp only [Reader.text, peek?_eq hskip]
      exact gives_readText hwritten (rest_eat hskip)
  | null | true | false | number | array | object =>
      obtain ⟨c, cs, heq, hc, htext, -⟩ := hfirst
      have hne : c ≠ '"' := fun h => Bool.false_ne_true (htext h)
      rw [heq] at hr
      simp only [Reader.text, peek?_eq (rest_skip hws hc.not_space hr)]
      exact agrees_error _ rest

theorem reads_truth : Reads Reader.truth Tree.truth? := by
  intro t value ws rest r h hws hrest hr
  have hfirst := h.first_tells
  cases h with
  | true =>
      have hskip := rest_skip hws (by decide) hr
      obtain ⟨r', hpass, hrest'⟩ := leaves_passWord (rest_eat hskip)
      simp only [Reader.truth, peek?_eq hskip]
      rw [hpass]
      exact agrees_ok hrest'
  | false =>
      have hskip := rest_skip hws (by decide) hr
      obtain ⟨r', hpass, hrest'⟩ := leaves_passWord (rest_eat hskip)
      simp only [Reader.truth, peek?_eq hskip]
      rw [hpass]
      exact agrees_ok hrest'
  | null | number | text | array | object =>
      obtain ⟨c, cs, heq, hc, -, htruth, -⟩ := hfirst
      have ht : c ≠ 't' := fun h => Bool.false_ne_true (htruth (.inl h))
      have hf : c ≠ 'f' := fun h => Bool.false_ne_true (htruth (.inr h))
      rw [heq] at hr
      simp only [Reader.truth, peek?_eq (rest_skip hws hc.not_space hr)]
      exact agrees_error _ rest

/-! ## Items of an array -/

variable {first : Bool} {separator ws body rest : List Char} {r : Reader}

theorem nextItem_close (hws : IsBlank ws) (hr : r.rest = ws ++ ']' :: rest) :
    r.nextItem first = .ok none := by
  have hskip := rest_skip hws (by decide) hr
  simp [nextItem, peek?_eq hskip]

theorem nextItem_item {t : Tree} {value : List Char} (hseparator : Separates first separator)
    (hws : IsBlank ws) (hvalue : Spells t value) (hr : r.rest = separator ++ (ws ++ (value ++ rest))) :
    ∃ r', r.nextItem first = .ok (some r') ∧ r'.rest = value ++ rest := by
  obtain ⟨c, cs, rfl, hc⟩ := hvalue.exists_cons
  have hclose : c ≠ ']' := hc.ne (by decide) (by decide)
  cases hseparator with
  | first =>
      have hskip := rest_skip hws hc.not_space hr
      exact ⟨r.skip, by simp [nextItem, peek?_eq hskip, hclose], hskip⟩
  | comma hblank =>
      simp only [List.append_assoc, List.cons_append, List.nil_append] at hr
      have hcomma := rest_skip hblank (by decide) hr
      have hskip := rest_skip hws hc.not_space (rest_eat hcomma)
      exact ⟨_, by simp [nextItem, peek?_eq hcomma, peek?_eq hskip, hclose], hskip⟩

theorem leaves_closeArray (hws : IsBlank ws) (hr : r.rest = ws ++ ']' :: rest) :
    Leaves r.closeArray rest := by
  have hskip := rest_skip hws (by decide) hr
  exact ⟨_, by simp [closeArray, peek?_eq hskip], rest_eat hskip⟩

/-- An array is not left before its last item. -/
theorem closeArray_item {t : Tree} {ts : List Tree} (h : SpellsItems first (t :: ts) body)
    (hr : r.rest = body ++ rest) : ∃ e, r.closeArray = .error e := by
  cases h with
  | item hseparator hws hvalue _ =>
      cases hseparator with
      | first =>
          obtain ⟨c, cs, rfl, hc⟩ := hvalue.exists_cons
          simp only [List.append_assoc, List.cons_append, List.nil_append] at hr
          have hskip := rest_skip hws hc.not_space hr
          have hclose : c ≠ ']' := hc.ne (by decide) (by decide)
          have hcomma : c ≠ ',' := hc.ne (by decide) (by decide)
          simp only [closeArray, peek?_eq hskip, hclose, hcomma, if_false]
          exact ⟨_, rfl⟩
      | comma hblank =>
          simp only [List.append_assoc, List.cons_append, List.nil_append] at hr
          have hskip := rest_skip hblank (by decide) hr
          simp only [closeArray, peek?_eq hskip]
          exact ⟨_, rfl⟩

theorem SpellsItems.length_le {ts : List Tree} (h : SpellsItems first ts body) :
    ts.length ≤ body.length := by
  induction ts generalizing first body with
  | nil => exact Nat.zero_le _
  | cons t ts ih =>
      cases h with
      | item _ _ hvalue hbody =>
          obtain ⟨c, cs, rfl, -⟩ := hvalue.exists_cons
          have := ih hbody
          simp only [List.length_cons, List.length_append]
          omega

/-- Leaves an array with what was read from it. -/
def closeItems (x : α × Reader) : Except Fault (α × Reader) :=
  x.2.closeArray >>= fun r => .ok (x.1, r)

theorem agrees_closeItems {a : α} (hws : IsBlank ws) (hr : r.rest = ws ++ ']' :: rest) :
    Agrees (closeItems (a, r)) (some a) rest := by
  obtain ⟨r', hclose, hrest⟩ := leaves_closeArray hws hr
  rw [closeItems, hclose]
  exact agrees_ok hrest

theorem items_cons {item : Reading α} {fuel : Nat} {r' : Reader}
    (h : r.nextItem first = .ok (some r')) :
    (items item (fuel + 1) first r >>= closeItems) = item r' >>= fun x =>
      (items item fuel false x.2 >>= closeItems) >>= fun y => .ok (x.1 :: y.1, y.2) := by
  rw [items, h]
  cases hitem : item r' with
  | error e => simp [bind, Except.bind, hitem]
  | ok x =>
      cases hitems : items item fuel false x.2 with
      | error e => simp [bind, Except.bind, hitem, hitems]
      | ok y =>
          cases hclose : y.2.closeArray with
          | error e => simp [bind, Except.bind, hitem, hitems, closeItems, hclose]
          | ok r => simp [bind, Except.bind, hitem, hitems, closeItems, hclose]

/-- Items are read one after the other. -/
theorem agrees_items {item : Reading α} {decode : Tree → Option α} (hitem : Reads item decode)
    {ts : List Tree} (h : SpellsItems first ts body) {fuel : Nat} (hfuel : ts.length < fuel)
    (hr : r.rest = body ++ rest) :
    Agrees (items item fuel first r >>= closeItems) (ts.mapM decode) rest := by
  induction ts generalizing first body fuel r with
  | nil =>
      obtain ⟨fuel, rfl⟩ := exists_succ_of_lt hfuel
      cases h with
      | close hws =>
          rw [List.append_assoc] at hr
          rw [items, nextItem_close hws hr]
          exact agrees_closeItems hws hr
  | cons t ts ih =>
      obtain ⟨fuel, rfl⟩ := exists_succ_of_lt hfuel
      cases h with
      | @item _ _ _ _ body _ _ hseparator hws hvalue hbody =>
          simp only [List.append_assoc] at hr
          obtain ⟨r', hnext, hr'⟩ := nextItem_item hseparator hws hvalue hr
          have hread := hitem hvalue isBlank_nil (isStop_items hbody rest) hr'
          have hrest : ∀ a r'', r''.rest = body ++ rest →
              Agrees (items item fuel false r'' >>= closeItems >>= fun y => .ok (a :: y.1, y.2))
                ((ts.mapM decode).map (a :: ·)) rest :=
            fun a r'' hr'' =>
              (ih hbody (Nat.lt_of_succ_lt_succ hfuel) hr'').map fun _ _ => rfl
          have hmap : (t :: ts).mapM decode
              = (decode t).bind fun a => (ts.mapM decode).map (a :: ·) := by
            rw [List.mapM_cons]
            cases decode t with
            | none => rfl
            | some a => cases ts.mapM decode <;> rfl
          rw [items_cons hnext, hmap]
          exact hread.bind hrest

theorem reads_array {item : Reading α} {decode : Tree → Option α} (hitem : Reads item decode) :
    Reads (Reader.array item) fun t => t.items?.bind fun ts => ts.mapM decode := by
  intro t value ws rest r h hws hrest hr
  have hfirst := h.first_tells
  cases h with
  | @array ts body hitems =>
      rw [List.cons_append] at hr
      have hskip := rest_skip hws (by decide) hr
      have hfuel : ts.length < r.skip.rest.length + 1 := by
        have := hitems.length_le
        rw [hskip]
        simp only [List.length_cons, List.length_append]
        omega
      simp only [Reader.array, peek?_eq hskip]
      exact agrees_items hitem hitems hfuel (rest_eat hskip)
  | null | true | false | number | text | object =>
      obtain ⟨c, cs, heq, hc, -, -, harray, -⟩ := hfirst
      have hne : c ≠ '[' := fun h => Bool.false_ne_true (harray h)
      rw [heq] at hr
      simp only [Reader.array, peek?_eq (rest_skip hws hc.not_space hr)]
      exact agrees_error _ rest

/-! ## Structures -/

/-- What the fields of a form make of values: for each field, what it changes. -/
structure Form.Meaning (form : Form α) where
  put : String → Tree → Option (α → α)
  reads : ∀ f ∈ form.fields, Reads f.read (put f.name)

namespace Form.Meaning

variable {form : Form α} (m : form.Meaning)

/-- The structure that members make; `seen` holds the fields given so far. -/
def decodeMembers (seen : List String) (a : α) : List (String × Tree) → Option (List String × α)
  | [] => some (seen, a)
  | (key, t) :: ms =>
    if (form.fields.find? fun f => f.name == key).isSome then
      if seen.contains key then none
      else (m.put key t).bind fun put => decodeMembers (key :: seen) (put a) ms
    else decodeMembers seen a ms

theorem decodeMembers_known {key : String} {t : Tree} {seen : List String} {put : α → α} {a : α}
    (hknown : (form.fields.find? fun f => f.name == key).isSome = true) (hunseen : key ∉ seen)
    (hput : m.put key t = some put) (ms : List (String × Tree)) :
    m.decodeMembers seen a ((key, t) :: ms) = m.decodeMembers (key :: seen) (put a) ms := by
  rw [decodeMembers, if_pos hknown, if_neg (by simpa using hunseen), hput, Option.bind_some]

/-- The structure that items make, in the order of the fields. -/
def decodeItems : List (Field α) → α → List Tree → Option α
  | [], a, [] => some a
  | [], _, _ :: _ => none
  | f :: fs, a, [] => if f.optional then decodeItems fs a [] else none
  | f :: fs, a, t :: ts => (m.put f.name t).bind fun put => decodeItems fs (put a) ts

/-- The structure that is left with its fields, if none is missing. -/
def complete? (form : Form α) (x : List String × α) : Option α :=
  if (form.missing? x.1).isSome then none else some x.2

/-- The structure that a value makes. -/
def decode : Tree → Option α
  | .array ts => m.decodeItems form.fields form.blank ts
  | .object ms => (m.decodeMembers [] form.blank ms).bind (complete? form)
  | _ => none

theorem elements_cons {expected : String} {f : Field α} {fields : List (Field α)} {i : Nat} {a : α}
    {r' : Reader} (h : r.nextItem (i = 0) = .ok (some r')) :
    (elements expected (f :: fields) i a r >>= closeItems) = f.read r' >>= fun x =>
      elements expected fields (i + 1) (x.1 a) x.2 >>= closeItems := by
  rw [elements, h]
  cases hread : f.read r' with
  | error e => simp [bind, Except.bind, hread]
  | ok x => simp [bind, Except.bind, hread]

/-- The items of an array are taken in the order of the fields. -/
theorem agrees_elements (expected : String) {fields : List (Field α)}
    (hfields : ∀ f ∈ fields, f ∈ form.fields) {i : Nat} {a : α} {ts : List Tree}
    (h : SpellsItems (i = 0) ts body) (hr : r.rest = body ++ rest) :
    Agrees (elements expected fields i a r >>= closeItems) (m.decodeItems fields a ts) rest := by
  induction fields generalizing i a ts body r with
  | nil =>
      cases ts with
      | nil =>
          cases h with
          | close hws =>
              rw [List.append_assoc] at hr
              exact agrees_closeItems hws hr
      | cons t ts =>
          obtain ⟨e, he⟩ := closeArray_item h hr
          simp [elements, decodeItems, bind, Except.bind, closeItems, he, Agrees]
  | cons f fields ih =>
      obtain ⟨hf, hfields⟩ := List.forall_mem_cons.mp hfields
      cases h with
      | close hws =>
          have hnext : r.nextItem (i = 0) = .ok none := by
            rw [List.append_assoc] at hr
            exact nextItem_close hws hr
          rw [elements, hnext, decodeItems]
          cases hoptional : f.optional with
          | true => exact ih hfields (.close hws) hr
          | false =>
              have hfail : ∃ e, (r.failWhole ']' (.invalidLength i expected) :
                  Except Fault (α × Reader)) = .error e := failWhole_eq_error _ _ _
              obtain ⟨e, he⟩ := hfail
              exact ⟨e, by simp [bind, Except.bind, he]⟩
      | item hseparator hws hvalue hbody =>
          simp only [List.append_assoc] at hr
          obtain ⟨r', hnext, hr'⟩ := nextItem_item hseparator hws hvalue hr
          rw [elements_cons hnext, decodeItems]
          refine (m.reads f hf hvalue isBlank_nil (isStop_items hbody rest) hr').bind ?_
          exact fun put r'' hr'' => ih hfields hbody hr''

/-! ### Members of an object -/

theorem nextKey_close (hws : IsBlank ws) (hr : r.rest = ws ++ '\x7d' :: rest) :
    r.nextKey first = .ok none := by
  have hskip := rest_skip hws (by decide) hr
  simp [nextKey, peek?_eq hskip]

theorem nextKey_member (hseparator : Separates first separator) (hws : IsBlank ws)
    (hr : r.rest = separator ++ (ws ++ '"' :: rest)) :
    ∃ r', r.nextKey first = .ok (some r') ∧ r'.rest = '"' :: rest := by
  cases hseparator with
  | first =>
      have hskip := rest_skip hws (by decide) hr
      exact ⟨r.skip, by simp [nextKey, peek?_eq hskip], hskip⟩
  | comma hblank =>
      simp only [List.append_assoc, List.cons_append, List.nil_append] at hr
      have hcomma := rest_skip hblank (by decide) hr
      have hskip := rest_skip hws (by decide) (rest_eat hcomma)
      exact ⟨_, by simp [nextKey, peek?_eq hcomma, peek?_eq hskip], hskip⟩

theorem leaves_passColon (hws : IsBlank ws) (hr : r.rest = ws ++ ':' :: rest) :
    Leaves r.passColon rest := by
  have hskip := rest_skip hws (by decide) hr
  exact ⟨_, by simp [passColon, peek?_eq hskip], rest_eat hskip⟩

theorem leaves_closeObject (hws : IsBlank ws) (hr : r.rest = ws ++ '\x7d' :: rest) :
    Leaves r.closeObject rest := by
  have hskip := rest_skip hws (by decide) hr
  exact ⟨_, by simp [closeObject, peek?_eq hskip], rest_eat hskip⟩

theorem length_le_of_spellsMembers {ms : List (String × Tree)}
    (h : SpellsMembers first ms body) : ms.length ≤ body.length := by
  induction ms generalizing first body with
  | nil => exact Nat.zero_le _
  | cons m ms ih =>
      cases h with
      | member _ _ _ _ _ _ hbody =>
          have := ih hbody
          simp only [List.length_cons, List.length_append]
          omega

/-- Leaves an object with the structure that was read from it. -/
def closeMembers (form : Form α) (x : (List String × α) × Reader) : Except Fault (α × Reader) :=
  match form.missing? x.1.1 with
  | some name => x.2.failWhole '\x7d' (.missingField name)
  | none => x.2.closeObject >>= fun r => .ok (x.1.2, r)

theorem agrees_closeMembers {x : List String × α} (hws : IsBlank ws)
    (hr : r.rest = ws ++ '\x7d' :: rest) :
    Agrees (closeMembers form (x, r)) (complete? form x) rest := by
  rw [closeMembers, complete?]
  cases form.missing? x.1 with
  | some name => exact failWhole_eq_error r '\x7d' _
  | none =>
      obtain ⟨r', hclose, hrest⟩ := leaves_closeObject hws hr
      simp only [hclose]
      exact agrees_ok hrest

/-- Members are taken one after the other; unknown ones are passed. -/
theorem agrees_members {ms : List (String × Tree)} (h : SpellsMembers first ms body) {fuel : Nat}
    {seen : List String} {a : α} (hfuel : ms.length < fuel) (hr : r.rest = body ++ rest) :
    Agrees (form.members fuel first seen a r >>= closeMembers form)
      ((m.decodeMembers seen a ms).bind (complete? form)) rest := by
  induction ms generalizing first body fuel seen a r with
  | nil =>
      obtain ⟨fuel, rfl⟩ := exists_succ_of_lt hfuel
      cases h with
      | close hws =>
          rw [List.append_assoc] at hr
          rw [members, nextKey_close hws hr, decodeMembers]
          exact agrees_closeMembers hws hr
  | cons entry ms ih =>
      obtain ⟨fuel, rfl⟩ := exists_succ_of_lt hfuel
      cases h with
      | @member _ _ _ _ _ _ _ body key t _ hseparator hws hwritten hws' hws'' hvalue hbody =>
          simp only [List.append_assoc, List.cons_append] at hr
          obtain ⟨r₁, hnext, hr₁⟩ := nextKey_member hseparator hws hr
          obtain ⟨r₂, hkey, hr₂⟩ := gives_readText hwritten (rest_eat hr₁)
          obtain ⟨r₃, hcolon, hr₃⟩ := leaves_passColon hws' hr₂
          have hstop := isStop_members hbody rest
          rw [members, hnext, decodeMembers]
          cases hfind : form.fields.find? fun f => f.name == key with
          | none =>
              obtain ⟨r₄, hpass, hr₄⟩ := leaves_passValue hvalue hws'' hstop hr₃
              simpa [bind, Except.bind, hkey, hfind, hcolon, hpass] using
                ih hbody (Nat.lt_of_succ_lt_succ hfuel) hr₄
          | some f =>
              have hf : f ∈ form.fields := List.mem_of_find?_eq_some hfind
              obtain rfl : f.name = key := by simpa using List.find?_some hfind
              by_cases hseen : f.name ∈ seen
              · have hfail : ∃ e, (r₂.failWhole '\x7d' (.duplicateField f.name) :
                    Except Fault ((List String × α) × Reader)) = .error e :=
                  failWhole_eq_error _ _ _
                obtain ⟨e, he⟩ := hfail
                simp [bind, Except.bind, hkey, hfind, hseen, he, Agrees]
              · have hread := m.reads f hf hvalue hws'' hstop hr₃
                cases hput : m.put f.name t with
                | none =>
                    rw [hput] at hread
                    obtain ⟨e, he⟩ := hread
                    simp [bind, Except.bind, hkey, hfind, hseen, hcolon, he, Agrees]
                | some put =>
                    rw [hput] at hread
                    obtain ⟨r₄, he, hr₄⟩ := hread
                    simpa [bind, Except.bind, hkey, hfind, hseen, hcolon, he] using
                      ih hbody (Nat.lt_of_succ_lt_succ hfuel) hr₄

/-- **A form reads the structure that a value makes.** -/
theorem reads_form : Reads form.read m.decode := by
  intro t value ws rest r h hws hrest hr
  have hfirst := h.first_tells
  cases h with
  | @array ts body hitems =>
      rw [List.cons_append] at hr
      have hskip := rest_skip hws (by decide) hr
      simp only [read, peek?_eq hskip]
      exact m.agrees_elements _ (fun _ h => h) hitems (rest_eat hskip)
  | @object ms body hmembers =>
      rw [List.cons_append] at hr
      have hskip := rest_skip hws (by decide) hr
      have hfuel : ms.length < r.skip.rest.length + 1 := by
        have := length_le_of_spellsMembers hmembers
        rw [hskip]
        simp only [List.length_cons, List.length_append]
        omega
      simp only [read, peek?_eq hskip]
      exact m.agrees_members hmembers hfuel (rest_eat hskip)
  | null | true | false | number | text =>
      obtain ⟨c, cs, heq, hc, -, -, harray, hobject⟩ := hfirst
      have hbracket : c ≠ '[' := fun h => Bool.false_ne_true (harray h)
      have hbrace : c ≠ '\x7b' := fun h => Bool.false_ne_true (hobject h)
      rw [heq] at hr
      simp only [read, peek?_eq (rest_skip hws hc.not_space hr)]
      exact agrees_error _ rest

/-- **A text that writes a value is parsed as what the value makes.** -/
theorem parse_eq_ok_iff {t : Tree} {text : String} (h : Writes t text) {a : α} :
    form.parse text = .ok a ↔ m.decode t = some a := by
  obtain ⟨before, value, after, hbefore, hvalue, hafter, htext⟩ := h
  have hstop : IsStop after := by simpa using isStop_blank hafter isStop_nil
  have hread := m.reads_form hvalue hbefore hstop (r := .start text.toList) htext
  cases hdecode : m.decode t with
  | none =>
      rw [hdecode] at hread
      obtain ⟨e, he⟩ := hread
      simp [parse, bind, Except.bind, he]
  | some b =>
      rw [hdecode] at hread
      obtain ⟨r, he, hr⟩ := hread
      have hskip : r.skip.rest = [] := by
        have hfrom := rest_skipFrom hafter (by nofun : ∀ c ∈ [].head?, _) r.line r.column
        rwa [List.append_nil, ← hr] at hfrom
      simp [parse, bind, Except.bind, he, hskip]

end Form.Meaning

end CaptureTypes.Json
