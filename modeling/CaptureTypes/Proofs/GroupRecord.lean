/-
# What is read from the text of a group

A group is written as an object of its number, its name, its value and its
range, where null stands for no name and for no range.  A reader of such
objects needs two things that no other form asks for: whole numbers, which
may be of any size here, and values that may be null.  Both are tied to trees
like the other readings, so what a form makes of a value gives
`GroupRecord.parse_toText`: every group is read back, whatever its value
holds.
-/
import CaptureTypes.Match.Capture
import CaptureTypes.Proofs.JsonForm
import CaptureTypes.Proofs.JsonRender

namespace CaptureTypes

namespace Json

variable {α : Type}

/-! ## Whole numbers -/

namespace Reader

/-- Whether digits are a whole number: only zero begins with zero. -/
def isWhole : List Char → Bool
  | [] => false
  | d :: ds => d ≠ '0' || ds.isEmpty

/-- Whether a number goes on with a fraction or an exponent. -/
def goesOn (r : Reader) : Bool := r.peek?.any fun c => c ∈ ['.', 'e', 'E']

/-- Reads a whole number without a sign. -/
def natural : Reading Nat := fun r =>
  let r := r.skip
  if isWhole r.digits.1 && !r.digits.2.goesOn then
    .ok (Nat.ofDigitChars 10 r.digits.1 0, r.digits.2)
  else .error (r.otherType "a natural number")

theorem isWhole_eq {ds : List Char} (h : IsWhole ds) : isWhole ds = true := by
  obtain ⟨⟨hne, -⟩, hzero⟩ := h
  cases ds with
  | nil => exact absurd rfl hne
  | cons d ds =>
      rw [isWhole, Bool.or_eq_true, decide_eq_true_eq]
      by_cases hd : d = '0'
      · subst hd
        obtain rfl : ds = [] := (List.cons.inj (hzero rfl)).2
        exact .inr rfl
      · exact .inl hd

theorem digits_of_not_isDigit {r : Reader} {c : Char} {cs : List Char} (hr : r.rest = c :: cs)
    (hc : c.isDigit = false) : r.digits.1 = [] := by
  rw [digits, hr, digitsFrom, hc]
  rfl

theorem natural_of_not_isDigit {r : Reader} {c : Char} {cs : List Char}
    (hr : r.skip.rest = c :: cs) (hc : c.isDigit = false) :
    natural r = .error (r.skip.otherType "a natural number") := by
  rw [natural, digits_of_not_isDigit hr hc]
  rfl

end Reader

open Reader

/-- The whole number that a value is. -/
def Tree.natural? : Tree → Option Nat
  | .number ds => if ds.all Char.isDigit then some (Nat.ofDigitChars 10 ds 0) else none
  | _ => none

/-- A number without a sign is whole, or its digits are followed by a sign that tells it is not. -/
theorem IsUnsigned.exists_whole {cs : List Char} (h : IsUnsigned cs) :
    ∃ whole tail, IsWhole whole ∧ cs = whole ++ tail ∧
      (tail = [] ∨ ∃ c rest, tail = c :: rest ∧ c ∈ ['.', 'e', 'E']) := by
  obtain ⟨whole, fraction, exponent, hwhole, hfraction, hexponent, rfl⟩ := h
  refine ⟨whole, fraction ++ exponent, hwhole, rfl, ?_⟩
  rcases hfraction with rfl | ⟨ds, -, rfl⟩
  · rcases hexponent with rfl | ⟨e, he, sign, -, ds, -, rfl⟩
    · exact .inl rfl
    · exact .inr ⟨e, _, rfl, List.mem_cons_of_mem _ he⟩
  · exact .inr ⟨'.', _, rfl, List.mem_cons_self⟩

theorem agrees_natural_unsigned {cs rest : List Char} {r : Reader} (h : IsUnsigned cs)
    (hrest : IsStop rest) (hr : r.skip.rest = cs ++ rest) :
    Agrees (natural r) (Tree.natural? (.number cs)) rest := by
  obtain ⟨whole, tail, hwhole, rfl, htail⟩ := h.exists_whole
  have hall : whole.all Char.isDigit = true := List.all_eq_true.mpr hwhole.1.2
  rw [List.append_assoc] at hr
  -- after the digits stands what stops the value, or the sign that goes on with it
  rcases htail with rfl | ⟨c, cs, rfl, hc⟩
  · obtain ⟨hdigits, hafter⟩ := rest_digits hwhole.1.2 (isDigitStop_of_isStop hrest) hr
    have hover : r.skip.digits.2.goesOn = false := by
      rw [goesOn, peek?, hafter]
      cases hhead : rest.head? with
      | none => rfl
      | some c => exact decide_eq_false (hrest c hhead).2
    rw [natural, hdigits, isWhole_eq hwhole, hover, List.append_nil, Tree.natural?, if_pos hall]
    exact agrees_ok hafter
  · have hc' : c.isDigit = false := by
      simp only [List.mem_cons, List.not_mem_nil, or_false] at hc
      rcases hc with rfl | rfl | rfl
      all_goals rfl
    obtain ⟨hdigits, hafter⟩ := rest_digits hwhole.1.2 (isDigitStop_cons _ hc') hr
    have hon : r.skip.digits.2.goesOn = true := by
      rw [goesOn, peek?_eq hafter, Option.any_some, decide_eq_true hc]
    have hnot : (whole ++ c :: cs).all Char.isDigit = false := by
      rw [List.all_append, List.all_cons, hc', Bool.false_and, Bool.and_false]
    rw [natural, hon, Bool.not_true, Bool.and_false, Tree.natural?, hnot]
    exact agrees_error _ rest

theorem reads_natural : Reads Reader.natural Tree.natural? := by
  intro t value ws rest r h hws hrest hr
  cases h with
  | number hnumber =>
      rcases hnumber with hunsigned | ⟨cs, -, rfl⟩
      · obtain ⟨d, ds, rfl, hd⟩ := hunsigned.exists_cons
        have hspace : Reader.isSpace d = false := IsStart.not_space (.inl hd)
        exact agrees_natural_unsigned hunsigned hrest (rest_skip hws hspace hr)
      · have hskip := rest_skip hws (by decide) hr
        rw [natural_of_not_isDigit hskip (by decide)]
        exact agrees_error _ rest
  | null | true | false | text | array | object =>
      have hskip := rest_skip hws (by decide) hr
      rw [natural_of_not_isDigit hskip (by decide)]
      exact agrees_error _ rest

theorem natural?_decimal (n : Nat) : Tree.natural? (.number (Text.decimal n)) = some n := by
  have hall : (Text.decimal n).all Char.isDigit = true :=
    List.all_eq_true.mpr fun _ hc => Text.isDigit_of_mem_decimal hc
  rw [Tree.natural?, if_pos hall, Text.decimal_eq_toDigits, Nat.ofDigitChars_ten_toDigits]

/-! ## Pairs -/

/-- Reads an array of two items. -/
def Reader.pair (item : Reading α) : Reading (α × α) := fun r => do
  let (items, r) ← array item r
  match items with
  | [a, b] => .ok ((a, b), r)
  | _ => r.failWhole ']' (.invalidLength items.length "a tuple of size 2")

/-- Two items of a list of two. -/
def pair? : List α → Option (α × α)
  | [a, b] => some (a, b)
  | _ => none

/-- The pair that a value is. -/
def Tree.pair? (decode : Tree → Option α) (t : Tree) : Option (α × α) :=
  (t.items?.bind fun ts => ts.mapM decode).bind Json.pair?

theorem reads_pair {item : Reading α} {decode : Tree → Option α} (h : Reads item decode) :
    Reads (Reader.pair item) (Tree.pair? decode) := by
  intro t value ws rest r ht hws hrest hr
  refine (reads_array h ht hws hrest hr).bind fun items r' hr' => ?_
  match items with
  | [a, b] => exact agrees_ok hr'
  | [] => exact failWhole_eq_error r' ']' _
  | [_] => exact failWhole_eq_error r' ']' _
  | _ :: _ :: _ :: _ => exact failWhole_eq_error r' ']' _

/-! ## Null -/

/-- Reads null or a value. -/
def Reader.orNull (item : Reading α) : Reading (Option α) := fun r =>
  if r.skip.peek? = some 'n' then
    (passWord ['u', 'l', 'l'] r.skip.eat).map fun r => (none, r)
  else do
    let (a, r) ← item r
    .ok (some a, r)

/-- Nothing for null, or what another value is. -/
def Tree.orNull? (decode : Tree → Option α) : Tree → Option (Option α)
  | .null => some none
  | t => (decode t).map some

/-- Only null begins with its first letter. -/
theorem Spells.eq_null {t : Tree} {cs : List Char} (h : Spells t ('n' :: cs)) : t = .null := by
  cases h with
  | null => rfl
  | number hnumber =>
      rcases hnumber with hunsigned | ⟨rest, -, hminus⟩
      · obtain ⟨d, ds, heq, hd⟩ := hunsigned.exists_cons
        cases heq
        cases hd
      · cases hminus

theorem reads_orNull {item : Reading α} {decode : Tree → Option α} (h : Reads item decode) :
    Reads (Reader.orNull item) (Tree.orNull? decode) := by
  intro t value ws rest r ht hws hrest hr
  obtain ⟨c, cs, rfl, hc⟩ := ht.exists_cons
  have hskip := rest_skip hws hc.not_space hr
  rw [Reader.orNull, peek?_eq hskip]
  by_cases hn : c = 'n'
  · subst hn
    obtain rfl := ht.eq_null
    cases ht
    obtain ⟨r', hpass, hr'⟩ := leaves_passWord (rest_eat hskip)
    rw [if_pos rfl, hpass]
    exact agrees_ok hr'
  · have hnull : Tree.orNull? decode t = (decode t).map some := by
      cases t with
      | null =>
          cases ht
          exact absurd rfl hn
      | _ => rfl
    rw [if_neg fun heq => hn (Option.some.inj heq), hnull]
    exact (h ht hws hrest hr).map fun _ _ => rfl

end Json

/-! ## Groups -/

/-- What is written about a group. -/
structure GroupRecord where
  index : Nat
  name : Option String
  value : String
  range : Option (Nat × Nat)
deriving DecidableEq, Repr

namespace GroupRecord

open Json

/-- The field of the number. -/
def indexField : Json.Field GroupRecord where
  name := "index"
  optional := false
  read := fun r => do
    let (index, r) ← r.natural
    .ok (fun g => { g with index := index }, r)

/-- The field of the name. -/
def nameField : Json.Field GroupRecord where
  name := "name"
  optional := false
  read := fun r => do
    let (name, r) ← Reader.orNull Reader.text r
    .ok (fun g => { g with name := name }, r)

/-- The field of the value. -/
def valueField : Json.Field GroupRecord where
  name := "value"
  optional := false
  read := fun r => do
    let (value, r) ← r.text
    .ok (fun g => { g with value := value }, r)

/-- The field of the range. -/
def rangeField : Json.Field GroupRecord where
  name := "range"
  optional := false
  read := fun r => do
    let (range, r) ← Reader.orNull (Reader.pair Reader.natural) r
    .ok (fun g => { g with range := range }, r)

/-- The form of what is written about a group: no field may be missing. -/
def form : Json.Form GroupRecord :=
  ⟨"MatchGroup", [indexField, nameField, valueField, rangeField], ⟨0, none, "", none⟩⟩

/-- What a value changes in a record. -/
def put (name : String) (t : Tree) : Option (GroupRecord → GroupRecord) :=
  match name with
  | "index" => t.natural?.map fun index g => { g with index := index }
  | "name" => (t.orNull? Tree.text?).map fun name g => { g with name := name }
  | "value" => t.text?.map fun value g => { g with value := value }
  | "range" => (t.orNull? (Tree.pair? Tree.natural?)).map fun range g => { g with range := range }
  | _ => none

/-- A record as a value. -/
def meaning : form.Meaning where
  put := put
  reads := by
    intro f hf
    simp only [form, List.mem_cons, List.not_mem_nil, or_false] at hf
    rcases hf with rfl | rfl | rfl | rfl
    · exact reads_natural.map fun index (g : GroupRecord) => { g with index := index }
    · exact (reads_orNull reads_text).map fun name (g : GroupRecord) => { g with name := name }
    · exact reads_text.map fun value (g : GroupRecord) => { g with value := value }
    · exact (reads_orNull (reads_pair reads_natural)).map fun range (g : GroupRecord) =>
        { g with range := range }

theorem orNull?_textOrNull (name : Option String) :
    (textOrNull name).tree.orNull? Tree.text? = some name := by
  cases name <;> rfl

theorem orNull?_rangeOrNull (range : Option (Nat × Nat)) :
    (rangeOrNull range).tree.orNull? (Tree.pair? Tree.natural?) = some range := by
  cases range with
  | none => rfl
  | some range =>
      obtain ⟨a, b⟩ := range
      simp [rangeOrNull, tree, treeItems, Tree.orNull?, Tree.pair?, Tree.items?, pair?,
        natural?_decimal]

end GroupRecord

/-- What is written about a group. -/
def MatchGroup.record (g : MatchGroup) : GroupRecord := ⟨g.index, g.name, g.value, g.range⟩

/-- The members of a group are known, none comes twice and none is missing. -/
theorem GroupRecord.decode_toJson (g : MatchGroup) :
    meaning.decode g.toJson.tree = some g.record := by
  have hindex : meaning.put "index" (.number (Text.decimal g.index)) =
      some fun r => { r with index := g.index } :=
    congrArg (Option.map _) (Json.natural?_decimal g.index)
  have hname : meaning.put "name" (Json.textOrNull g.name).tree =
      some fun r => { r with name := g.name } :=
    congrArg (Option.map _) (orNull?_textOrNull g.name)
  have hvalue : meaning.put "value" (.text g.value) =
      some fun r => { r with value := g.value } := rfl
  have hrange : meaning.put "range" (Json.rangeOrNull g.range).tree =
      some fun r => { r with range := g.range } :=
    congrArg (Option.map _) (orNull?_rangeOrNull g.range)
  have htree : g.toJson.tree = .object [("index", .number (Text.decimal g.index)),
      ("name", (Json.textOrNull g.name).tree), ("value", .text g.value),
      ("range", (Json.rangeOrNull g.range).tree)] := rfl
  rw [htree, Json.Form.Meaning.decode,
    meaning.decodeMembers_known rfl (by decide) hindex,
    meaning.decodeMembers_known rfl (by decide) hname,
    meaning.decodeMembers_known rfl (by decide) hvalue,
    meaning.decodeMembers_known rfl (by decide) hrange]
  rfl

/-- **A group is read back from its text.** -/
theorem GroupRecord.parse_toText (g : MatchGroup) :
    form.parse g.toJson.toText = .ok g.record :=
  (meaning.parse_eq_ok_iff (Json.writes_toText g.toJson)).mpr (decode_toJson g)

end CaptureTypes
