/-
# Texts of the data format

The grammar of the data format, apart from any reader: a `Tree` is a value
with its members and items in order, and `Spells` relates it to the texts
that write it.  White space may stand between any two signs, characters may
be escaped or not, and numbers are kept as they are written.

The lemmas here are about the ends of what is spelled: a value begins with
a character that tells what it is, and it ends where something follows that
cannot go on with it (`IsStop`).
-/
import CaptureTypes.Json.Skip

namespace CaptureTypes.Json

/-- A value as it is written. -/
inductive Tree where
  | null
  | bool (b : Bool)
  | number (digits : List Char)
  | text (s : String)
  | array (items : List Tree)
  | object (members : List (String × Tree))

/-- White space of the format. -/
def IsBlank (ws : List Char) : Prop := ∀ c ∈ ws, Reader.isSpace c = true

theorem isBlank_nil : IsBlank [] := nofun

/-! ## Numbers and texts -/

/-- One digit or more. -/
def IsDigits (ds : List Char) : Prop := ds ≠ [] ∧ ∀ d ∈ ds, d.isDigit = true

/-- The digits before the point: zero alone, or digits that begin with another one. -/
def IsWhole (ds : List Char) : Prop := IsDigits ds ∧ (ds.head? = some '0' → ds = ['0'])

/-- Nothing, or a point with digits. -/
def IsFraction (cs : List Char) : Prop := cs = [] ∨ ∃ ds, IsDigits ds ∧ cs = '.' :: ds

/-- Nothing, or an exponent, which may have a sign. -/
def IsExponent (cs : List Char) : Prop :=
  cs = [] ∨ ∃ e ∈ ['e', 'E'], ∃ sign ∈ [[], ['+'], ['-']], ∃ ds, IsDigits ds ∧ cs = e :: (sign ++ ds)

/-- A number after its sign. -/
def IsUnsigned (cs : List Char) : Prop :=
  ∃ whole fraction exponent, IsWhole whole ∧ IsFraction fraction ∧ IsExponent exponent ∧
    cs = whole ++ (fraction ++ exponent)

/-- A number. -/
def IsNumber (cs : List Char) : Prop := IsUnsigned cs ∨ ∃ rest, IsUnsigned rest ∧ cs = '-' :: rest

/-- The number of four hexadecimal digits. -/
def IsCode (digits : List Char) (n : Nat) : Prop :=
  ∃ a b c d, digits.map Reader.hexValue? = [some a, some b, some c, some d] ∧
    n = ((a * 16 + b) * 16 + c) * 16 + d

/-- What is written between quotation marks, and the characters that it means; half a pair of
numbers stands for no character and spells nothing. -/
inductive SpellsText : List Char → List Char → Prop
  | nil : SpellsText [] []
  | plain {c : Char} {written meant : List Char} : c ≠ '"' → c ≠ '\\' → 0x20 ≤ c.toNat →
      SpellsText written meant → SpellsText (c :: written) (c :: meant)
  | escape {x e : Char} {written meant : List Char} : Reader.escaped? x = some e →
      SpellsText written meant → SpellsText ('\\' :: x :: written) (e :: meant)
  | code {digits written meant : List Char} {n : Nat} : IsCode digits n →
      Reader.isLeading n = false → Reader.isTrailing n = false →
      SpellsText written meant →
      SpellsText ('\\' :: 'u' :: (digits ++ written)) (Char.ofNat n :: meant)
  | pair {first second written meant : List Char} {n t : Nat} : IsCode first n → IsCode second t →
      Reader.isLeading n = true → Reader.isTrailing t = true →
      SpellsText written meant →
      SpellsText ('\\' :: 'u' :: (first ++ '\\' :: 'u' :: (second ++ written)))
        (Char.ofNat (0x10000 + (n - 0xD800) * 0x400 + (t - 0xDC00)) :: meant)

/-- Characters that need no escape spell themselves. -/
theorem spellsText_self (cs : List Char)
    (h : (cs.all fun c => c != '"' && c != '\\' && 0x20 ≤ c.toNat) = true) : SpellsText cs cs := by
  induction cs with
  | nil => exact .nil
  | cons c cs ih =>
      simp only [List.all_cons, Bool.and_eq_true, bne_iff_ne, decide_eq_true_eq] at h
      obtain ⟨⟨⟨hquote, hback⟩, hcontrol⟩, hrest⟩ := h
      exact .plain hquote hback hcontrol (ih hrest)

/-! ## Values -/

/-- What stands before an item: nothing before the first one, a comma before any other. -/
inductive Separates : (first : Bool) → List Char → Prop
  | first : Separates true []
  | comma {ws : List Char} : IsBlank ws → Separates false (ws ++ [','])

mutual

/-- The texts that write a value, without white space around them. -/
inductive Spells : Tree → List Char → Prop
  | null : Spells .null ['n', 'u', 'l', 'l']
  | true : Spells (.bool true) ['t', 'r', 'u', 'e']
  | false : Spells (.bool false) ['f', 'a', 'l', 's', 'e']
  | number {ds : List Char} : IsNumber ds → Spells (.number ds) ds
  | text {written : List Char} {s : String} : SpellsText written s.toList →
      Spells (.text s) ('"' :: (written ++ ['"']))
  | array {items : List Tree} {body : List Char} : SpellsItems true items body →
      Spells (.array items) ('[' :: body)
  | object {members : List (String × Tree)} {body : List Char} :
      SpellsMembers true members body → Spells (.object members) ('\x7b' :: body)

/-- The texts that write items up to the closing bracket; `first` says whether none was written
before. -/
inductive SpellsItems : (first : Bool) → List Tree → List Char → Prop
  | close {first : Bool} {ws : List Char} : IsBlank ws → SpellsItems first [] (ws ++ [']'])
  | item {first : Bool} {separator ws value body : List Char} {t : Tree} {ts : List Tree} :
      Separates first separator → IsBlank ws → Spells t value → SpellsItems false ts body →
      SpellsItems first (t :: ts) (separator ++ (ws ++ (value ++ body)))

/-- The texts that write members up to the closing brace. -/
inductive SpellsMembers : (first : Bool) → List (String × Tree) → List Char → Prop
  | close {first : Bool} {ws : List Char} : IsBlank ws → SpellsMembers first [] (ws ++ ['\x7d'])
  | member {first : Bool} {separator ws written ws' ws'' value body : List Char} {key : String}
      {t : Tree} {ms : List (String × Tree)} :
      Separates first separator → IsBlank ws → SpellsText written key.toList → IsBlank ws' →
      IsBlank ws'' → Spells t value → SpellsMembers false ms body →
      SpellsMembers first ((key, t) :: ms)
        (separator ++ (ws ++ '"' :: (written ++ '"' :: (ws' ++ ':' :: (ws'' ++ (value ++ body))))))

end

/-- The texts that hold a value and nothing else but white space. -/
def Writes (t : Tree) (text : String) : Prop :=
  ∃ before value after, IsBlank before ∧ Spells t value ∧ IsBlank after ∧
    text.toList = before ++ (value ++ after)

/-! ## Ends of values -/

/-- What cannot go on with a value: the end, or a character that belongs to no number. -/
def IsStop (rest : List Char) : Prop :=
  ∀ c ∈ rest.head?, c.isDigit = false ∧ c ∉ ['.', 'e', 'E']

theorem isStop_nil : IsStop [] := nofun

theorem isStop_cons {c : Char} (rest : List Char) (h : c.isDigit = false ∧ c ∉ ['.', 'e', 'E']) :
    IsStop (c :: rest) := by
  intro d hd
  cases hd
  exact h

/-- White space, or the sign after it, stops a value. -/
theorem isStop_blank {ws rest : List Char} (hws : IsBlank ws) (hrest : IsStop rest) :
    IsStop (ws ++ rest) := by
  cases ws with
  | nil => exact hrest
  | cons c ws =>
      refine isStop_cons _ ?_
      have hspace := hws c List.mem_cons_self
      simp only [Reader.isSpace, Bool.or_eq_true, decide_eq_true_eq] at hspace
      rcases hspace with ((rfl | rfl) | rfl) | rfl
      all_goals exact ⟨by decide, by decide⟩

theorem isStop_items {ts : List Tree} {body : List Char} (h : SpellsItems false ts body)
    (rest : List Char) : IsStop (body ++ rest) := by
  cases h with
  | close hws =>
      rw [List.append_assoc]
      exact isStop_blank hws (isStop_cons _ ⟨by decide, by decide⟩)
  | item hseparator =>
      cases hseparator with
      | comma hws =>
          simp only [List.append_assoc]
          exact isStop_blank hws (isStop_cons _ ⟨by decide, by decide⟩)

theorem isStop_members {ms : List (String × Tree)} {body : List Char}
    (h : SpellsMembers false ms body) (rest : List Char) : IsStop (body ++ rest) := by
  cases h with
  | close hws =>
      rw [List.append_assoc]
      exact isStop_blank hws (isStop_cons _ ⟨by decide, by decide⟩)
  | member hseparator =>
      cases hseparator with
      | comma hws =>
          simp only [List.append_assoc]
          exact isStop_blank hws (isStop_cons _ ⟨by decide, by decide⟩)

/-! ## Starts of values -/

/-- The first character of a value. -/
def IsStart (c : Char) : Prop := c.isDigit = true ∨ c ∈ ['n', 't', 'f', '-', '"', '[', '\x7b']

theorem IsStart.ne {c d : Char} (h : IsStart c) (hd : d.isDigit = false)
    (hnot : d ∉ ['n', 't', 'f', '-', '"', '[', '\x7b']) : c ≠ d := by
  rintro rfl
  rcases h with h | h
  · rw [hd] at h
    cases h
  · exact hnot h

theorem IsStart.not_space {c : Char} (h : IsStart c) : Reader.isSpace c = false := by
  have hne : ∀ d, d.isDigit = false → d ∉ ['n', 't', 'f', '-', '"', '[', '\x7b'] → c ≠ d :=
    fun d => h.ne
  simp [Reader.isSpace, hne ' ' (by decide) (by decide), hne '\n' (by decide) (by decide),
    hne '\t' (by decide) (by decide), hne '\r' (by decide) (by decide)]

theorem IsDigits.exists_cons {ds : List Char} (h : IsDigits ds) :
    ∃ d rest, ds = d :: rest ∧ d.isDigit = true := by
  obtain ⟨d, rest, rfl⟩ := List.exists_cons_of_ne_nil h.1
  exact ⟨d, rest, rfl, h.2 d List.mem_cons_self⟩

theorem IsUnsigned.exists_cons {cs : List Char} (h : IsUnsigned cs) :
    ∃ d rest, cs = d :: rest ∧ d.isDigit = true := by
  obtain ⟨whole, fraction, exponent, hwhole, -, -, rfl⟩ := h
  obtain ⟨d, rest, rfl, hd⟩ := hwhole.1.exists_cons
  exact ⟨d, _, rfl, hd⟩

/-- A value begins with a character that tells so. -/
theorem Spells.exists_cons {t : Tree} {cs : List Char} (h : Spells t cs) :
    ∃ c rest, cs = c :: rest ∧ IsStart c := by
  cases h with
  | null | true | false | text | array | object => exact ⟨_, _, rfl, .inr (by decide)⟩
  | number hnumber =>
      rcases hnumber with hunsigned | ⟨rest, -, rfl⟩
      · obtain ⟨d, rest, rfl, hd⟩ := hunsigned.exists_cons
        exact ⟨d, rest, rfl, .inl hd⟩
      · exact ⟨_, _, rfl, .inr (by decide)⟩

end CaptureTypes.Json
