/-
# What is written is spelled

`Json.render` writes one of the texts that spell a value: the one without
white space in which a character is escaped only where it has to be.  So
whatever is said of all texts that write a value (`Writes`) holds of the
rendered one.
-/
import CaptureTypes.Json.Value
import CaptureTypes.Proofs.JsonText
import CaptureTypes.Proofs.Numeral

namespace CaptureTypes.Json

mutual

/-- A value with its numbers as they are written. -/
def tree : Json → Tree
  | .null => .null
  | .bool b => .bool b
  | .number n => .number (Text.decimal n)
  | .text s => .text s
  | .array items => .array (treeItems items)
  | .object members => .object (treeMembers members)

/-- The items of an array. -/
def treeItems : List Json → List Tree
  | [] => []
  | v :: rest => v.tree :: treeItems rest

/-- The members of an object. -/
def treeMembers : List (String × Json) → List (String × Tree)
  | [] => []
  | (key, v) :: rest => (key, v.tree) :: treeMembers rest

end

theorem treeItems_eq_map (items : List Json) : treeItems items = items.map tree := by
  induction items with
  | nil => rfl
  | cons v rest ih => rw [treeItems, ih, List.map_cons]

theorem treeMembers_eq_map (members : List (String × Json)) :
    treeMembers members = members.map fun e => (e.1, e.2.tree) := by
  induction members with
  | nil => rfl
  | cons e rest ih =>
      obtain ⟨key, v⟩ := e
      rw [treeMembers, ih, List.map_cons]

/-! ## Texts -/

theorem hexValue?_digitChar : ∀ d, d < 16 → Reader.hexValue? (Text.digitChar d) = some d := by
  decide

/-- A control character is spelled by its number. -/
theorem isCode_control {c : Char} (h : c.toNat < 0x20) :
    IsCode ['0', '0', Text.digitChar (c.toNat / 16), Text.digitChar (c.toNat % 16)] c.toNat := by
  have hzero : Reader.hexValue? '0' = some 0 := by decide
  have hhigh := hexValue?_digitChar (c.toNat / 16) (by omega)
  have hlow := hexValue?_digitChar (c.toNat % 16) (by omega)
  refine ⟨0, 0, c.toNat / 16, c.toNat % 16, ?_, by omega⟩
  simp only [List.map_cons, List.map_nil, hzero, hhigh, hlow]

theorem spellsText_escape (c : Char) {written meant : List Char} (h : SpellsText written meant) :
    SpellsText (escape c ++ written) (c :: meant) := by
  unfold escape
  split
  case h_8 hquote hback _ _ _ _ _ =>
      split
      case isTrue hcontrol =>
          have hleading : Reader.isLeading c.toNat = false := by
            simp only [Reader.isLeading, Bool.and_eq_false_iff, decide_eq_false_iff_not]
            omega
          have htrailing : Reader.isTrailing c.toNat = false := by
            simp only [Reader.isTrailing, Bool.and_eq_false_iff, decide_eq_false_iff_not]
            omega
          have hcode := SpellsText.code (isCode_control hcontrol) hleading htrailing h
          rwa [Char.ofNat_toNat] at hcode
      case isFalse hcontrol => exact .plain hquote hback (Nat.le_of_not_lt hcontrol) h
  all_goals exact .escape rfl h

theorem spellsText_render (cs : List Char) : SpellsText (cs.flatMap escape) cs := by
  induction cs with
  | nil => exact .nil
  | cons c cs ih =>
      rw [List.flatMap_cons]
      exact spellsText_escape c ih

/-! ## Numbers -/

theorem getLast?_digitsRev {fuel n : Nat} (h : n ≠ 0) (hfuel : n < fuel) :
    (Text.digitsRev 10 fuel n).getLast? ≠ some '0' := by
  induction fuel generalizing n with
  | zero => exact absurd hfuel (Nat.not_lt_zero n)
  | succ fuel ih =>
      have hdigit : ∀ d, d < 10 → d ≠ 0 → Text.digitChar d ≠ '0' := by decide
      rw [Text.digitsRev]
      by_cases hn : n / 10 = 0
      · rw [if_pos hn, List.getLast?_singleton, Nat.mod_eq_of_lt (by omega)]
        exact fun heq => hdigit n (by omega) h (Option.some.inj heq)
      · have hrest := ih hn (by omega)
        rw [if_neg hn, List.getLast?_cons]
        cases hlast : (Text.digitsRev 10 fuel (n / 10)).getLast? with
        | none =>
            rw [List.getLast?_eq_none_iff] at hlast
            cases fuel with
            | zero => omega
            | succ fuel => cases hlast
        | some d =>
            rw [hlast] at hrest
            exact hrest

/-- The digits of a number are a whole number of the format: only zero begins with zero. -/
theorem isWhole_decimal (n : Nat) : IsWhole (Text.decimal n) := by
  refine ⟨⟨Text.decimal_ne_nil n, fun d hd => Text.isDigit_of_mem_decimal hd⟩, fun hhead => ?_⟩
  by_cases hn : n = 0
  · subst hn
    rfl
  · rw [Text.decimal, List.head?_reverse] at hhead
    exact absurd hhead (getLast?_digitsRev hn (Nat.lt_succ_self n))

theorem isNumber_decimal (n : Nat) : IsNumber (Text.decimal n) :=
  .inl ⟨Text.decimal n, [], [], isWhole_decimal n, .inl rfl, .inl rfl, by simp⟩

/-! ## Values -/

/-- A comma before the first of some items makes them the items that follow others. -/
theorem spellsItems_comma {t : Tree} {ts : List Tree} {body : List Char}
    (h : SpellsItems true (t :: ts) body) : SpellsItems false (t :: ts) (',' :: body) := by
  cases h with
  | item hseparator hws hvalue hbody =>
      cases hseparator with
      | first => exact .item (.comma isBlank_nil) hws hvalue hbody

theorem spellsMembers_comma {m : String × Tree} {ms : List (String × Tree)} {body : List Char}
    (h : SpellsMembers true (m :: ms) body) : SpellsMembers false (m :: ms) (',' :: body) := by
  cases h with
  | member hseparator hws hkey hws' hws'' hvalue hbody =>
      cases hseparator with
      | first => exact .member (.comma isBlank_nil) hws hkey hws' hws'' hvalue hbody

mutual

/-- **A rendered value is spelled.** -/
theorem spells_render (v : Json) : Spells v.tree v.render := by
  cases v with
  | null => exact .null
  | bool b =>
      cases b with
      | true => exact .true
      | false => exact .false
  | number n => exact .number (isNumber_decimal n)
  | text s => exact .text (spellsText_render s.toList)
  | array items => exact .array (spellsItems_render items)
  | object members => exact .object (spellsMembers_render members)

theorem spellsItems_render (items : List Json) :
    SpellsItems true (treeItems items) (renderItems items) := by
  match items with
  | [] => exact .close isBlank_nil
  | [v] => exact .item .first isBlank_nil (spells_render v) (.close isBlank_nil)
  | v :: w :: rest =>
      exact .item .first isBlank_nil (spells_render v)
        (spellsItems_comma (spellsItems_render (w :: rest)))

theorem spellsMembers_render (members : List (String × Json)) :
    SpellsMembers true (treeMembers members) (renderMembers members) := by
  match members with
  | [] => exact .close isBlank_nil
  | [(key, v)] =>
      have hmember := SpellsMembers.member .first isBlank_nil (spellsText_render key.toList)
        isBlank_nil isBlank_nil (spells_render v) (.close isBlank_nil)
      simpa [treeMembers, renderMembers, renderText] using hmember
  | (key, v) :: w :: rest =>
      have hrest := spellsMembers_comma (spellsMembers_render (w :: rest))
      have hmember := SpellsMembers.member .first isBlank_nil (spellsText_render key.toList)
        isBlank_nil isBlank_nil (spells_render v) hrest
      simpa [treeMembers, renderMembers, renderText] using hmember

end

theorem writes_toText (v : Json) : Writes v.tree v.toText := by
  refine ⟨[], v.render, [], isBlank_nil, spells_render v, isBlank_nil, ?_⟩
  rw [toText, String.toList_ofList, List.nil_append, List.append_nil]

end CaptureTypes.Json
