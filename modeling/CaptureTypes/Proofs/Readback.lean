/-
# Reading emitted tokens

What is emitted is meant for a compiler, so what is said about it is said of
the tokens.  This module reads them as a compiler would, with no reference
to the templates from which they come: a sequence of phrases, each ended by
a semicolon or by a block, attributes and visibility before the word that
tells what a phrase declares, paths, calls, and arguments between commas.

Beside each reader stands what it makes of tokens in the shape for which it
is meant.
-/
import CaptureTypes.Emission.Item

namespace CaptureTypes.Readback

/-! ## Phrases -/

/-- What ends a phrase: a semicolon, a block, or nothing because it is the last one. -/
inductive Ending where
  | semicolon
  | block (inner : List PlainToken)
  | open
deriving Repr, Inhabited

/-- An item, a member or a statement: its tokens up to its end. -/
structure Phrase where
  head : List PlainToken
  ending : Ending
deriving Repr, Inhabited

/-- The end of a phrase that a token makes. -/
def ending? : PlainToken → Option Ending
  | Token.sign _ ';' _ => some .semicolon
  | Token.group _ .brace inner => some (.block inner)
  | _ => none

/-- Phrases with one more token before them. -/
def Phrase.prepend (t : PlainToken) : List Phrase → List Phrase
  | [] => [⟨[t], .open⟩]
  | e :: es => ⟨t :: e.head, e.ending⟩ :: es

/-- Tokens as a sequence of phrases. -/
def phrases : List PlainToken → List Phrase
  | [] => []
  | t :: rest =>
    match ending? t with
    | some ending => ⟨[], ending⟩ :: phrases rest
    | none => Phrase.prepend t (phrases rest)

/-- Whether no token ends a phrase. -/
def isSimple (ts : List PlainToken) : Bool := ts.all fun t => (ending? t).isNone

theorem phrases_append {head rest : List PlainToken} {t : PlainToken} {ending : Ending}
    (hhead : isSimple head = true) (ht : ending? t = some ending) :
    phrases (head ++ t :: rest) = ⟨head, ending⟩ :: phrases rest := by
  induction head with
  | nil => rw [List.nil_append, phrases, ht]
  | cons h hs ih =>
      simp only [isSimple, List.all_cons, Bool.and_eq_true, Option.isNone_iff_eq_none] at hhead
      rw [List.cons_append, phrases, hhead.1, ih hhead.2]
      rfl

/-! ## What a phrase declares -/

/-- The tokens after attributes. -/
def afterAttributes : List PlainToken → List PlainToken
  | Token.sign _ '#' _ :: Token.group _ .bracket _ :: rest => afterAttributes rest
  | ts => ts

/-- The tokens after the word that opens a declaration to all. -/
def afterVisibility : List PlainToken → List PlainToken
  | Token.word _ "pub" :: rest => rest
  | ts => ts

/-- The block that ends a phrase. -/
def Phrase.block? (e : Phrase) : Option (List PlainToken) :=
  match e.ending with
  | .block inner => some inner
  | _ => none

/-- The tokens of a phrase from the word on that tells what it declares. -/
def Phrase.declared (e : Phrase) : List PlainToken := afterVisibility (afterAttributes e.head)

/-- The name of a constant or a function. -/
def Phrase.memberName? (e : Phrase) : Option String :=
  match e.declared with
  | Token.word _ "const" :: Token.word _ name :: _ => some name
  | Token.word _ "fn" :: Token.word _ name :: _ => some name
  | _ => none

/-- The tokens after an equals sign. -/
def afterEquals : List PlainToken → List PlainToken
  | [] => []
  | Token.sign _ '=' _ :: rest => rest
  | _ :: rest => afterEquals rest

/-- The value of the constant with a name. -/
def constant? (name : String) (members : List Phrase) : Option (List PlainToken) :=
  match members.find? fun e => e.memberName? == some name with
  | some ⟨head, .semicolon⟩ => some (afterEquals head)
  | _ => none

/-- The body of the function with a name. -/
def body? (name : String) (members : List Phrase) : Option (List PlainToken) :=
  match members.find? fun e => e.memberName? == some name with
  | some ⟨_, .block inner⟩ => some inner
  | _ => none

/-! ## Expressions -/

/-- Parts with one more token before them. -/
def prependPart (t : PlainToken) : List (List PlainToken) → List (List PlainToken)
  | [] => [[t]]
  | part :: parts => (t :: part) :: parts

/-- Whether a token is a comma. -/
def isComma : PlainToken → Bool
  | Token.sign _ ',' _ => true
  | _ => false

/-- The parts between commas; a comma at the end adds none. -/
def parts : List PlainToken → List (List PlainToken)
  | [] => []
  | t :: rest => if isComma t then [] :: parts rest else prependPart t (parts rest)

/-- Whether tokens are one part. -/
def isPart (ts : List PlainToken) : Bool := !ts.isEmpty && ts.all fun t => !isComma t

theorem parts_append {part rest : List PlainToken} {t : PlainToken} (hpart : isPart part = true)
    (ht : isComma t = true) : parts (part ++ t :: rest) = part :: parts rest := by
  simp only [isPart, Bool.and_eq_true, List.all_eq_true, Bool.not_eq_true'] at hpart
  replace hpart := hpart.2
  induction part with
  | nil => rw [List.nil_append, parts, if_pos ht]
  | cons p ps ih =>
      obtain ⟨hp, hps⟩ := List.forall_mem_cons.mp hpart
      rw [List.cons_append, parts, if_neg (Bool.eq_false_iff.mp hp), ih hps]
      rfl

theorem parts_last {part : List PlainToken} (hpart : isPart part = true) : parts part = [part] := by
  simp only [isPart, Bool.and_eq_true, List.all_eq_true, Bool.not_eq_true'] at hpart
  obtain ⟨hne, hpart⟩ := hpart
  induction part with
  | nil => cases hne
  | cons p ps ih =>
      obtain ⟨hp, hps⟩ := List.forall_mem_cons.mp hpart
      rw [parts, if_neg (Bool.eq_false_iff.mp hp)]
      cases ps with
      | nil => rfl
      | cons q ps => rw [ih rfl hps]; rfl

/-- A path at the start of tokens, and the tokens after it. -/
def path : List PlainToken → List String × List PlainToken
  | Token.sign _ ':' true :: Token.sign _ ':' false :: Token.word _ name :: rest =>
    (name :: (path rest).1, (path rest).2)
  | ts => ([], ts)

/-- The tokens after generic arguments, which hold no others. -/
def afterGenerics : List PlainToken → List PlainToken
  | Token.sign _ '<' _ :: rest => go rest
  | ts => ts
where
  /-- The tokens after the sign that closes generic arguments. -/
  go : List PlainToken → List PlainToken
    | [] => []
    | Token.sign _ '>' _ :: rest => rest
    | _ :: rest => go rest

/-- A call of a function by its path, with nothing after it. -/
def call? (ts : List PlainToken) : Option (List String × List (List PlainToken)) :=
  match path ts with
  | (function, [Token.group _ .parenthesis arguments]) => some (function, parts arguments)
  | _ => none

/-! ## Emitted members and items -/

section Emitted

open Emission Emission.Piece

variable (runtime : List PlainToken)

/-- What stands before the word that tells what a member is. -/
def memberFront (m : Member) : List Piece :=
  m.attributes.flatMap attributePieces ++ publicPieces m.isPublic

/-- A member as a phrase. -/
def memberPhrase (m : Member) : Phrase :=
  match m.content with
  | .constant type value =>
    ⟨fillAll runtime (memberFront m ++
      (words ["const", m.name] ++ sign ":" ++ type ++ sign "=" ++ value)), .semicolon⟩
  | .function parameters result body =>
    ⟨fillAll runtime (memberFront m ++
      (words ["fn", m.name] ++ parens parameters ++ sign "->" ++ result)),
      .block (fillAll runtime body)⟩

/-- An item as a phrase. -/
def itemPhrase : Item → Phrase
  | .struct given attributes visibility name fields =>
    ⟨fillAll runtime (given.map .token ++ attributes.flatMap attributePieces ++
      visibility.map .token ++ words ["struct", name] ++ angles (lifetime "t")),
      .block (fillAll runtime (fields.flatMap fieldPieces))⟩
  | .implementation attributes binder trait type members =>
    ⟨fillAll runtime (attributes.flatMap attributePieces ++ word "impl" ++ binder ++
      (match trait with
        | some t => t ++ word "for"
        | none => []) ++ type), .block (fillAll runtime (members.flatMap Member.pieces))⟩
  | .submodule name items =>
    ⟨fillAll runtime (words ["pub", "mod", name]), .block (fillAll runtime (Item.allPieces items))⟩

variable {runtime}

theorem fillAll_braces (head inner : List Piece) :
    fillAll runtime (head ++ braces inner)
      = fillAll runtime head ++ [Token.group () .brace (fillAll runtime inner)] := by
  rw [fillAll_append]
  rfl

theorem fillAll_semicolon (head : List Piece) :
    fillAll runtime (head ++ sign ";") = fillAll runtime head ++ [PlainToken.sign ';'] := by
  rw [fillAll_append]
  rfl

theorem phrases_member {m : Member} (h : isSimple (memberPhrase runtime m).head = true)
    (rest : List PlainToken) :
    phrases (fillAll runtime m.pieces ++ rest) = memberPhrase runtime m :: phrases rest := by
  obtain ⟨attributes, isPublic, name, content⟩ := m
  cases content with
  | constant type value =>
      rw [Member.pieces, Content.pieces, ← List.append_assoc, fillAll_semicolon, List.append_assoc]
      exact phrases_append h rfl
  | function parameters result body =>
      rw [Member.pieces, Content.pieces, ← List.append_assoc, fillAll_braces, List.append_assoc]
      exact phrases_append h rfl

theorem phrases_members {members : List Member}
    (h : ∀ m ∈ members, isSimple (memberPhrase runtime m).head = true) :
    phrases (fillAll runtime (members.flatMap Member.pieces))
      = members.map (memberPhrase runtime) := by
  induction members with
  | nil => rfl
  | cons m ms ih =>
      obtain ⟨hm, hms⟩ := List.forall_mem_cons.mp h
      rw [List.flatMap_cons, fillAll_append, phrases_member hm, ih hms, List.map_cons]

theorem afterAttributes_fillAll (attributes : List (List Piece)) (rest : List PlainToken) :
    afterAttributes (fillAll runtime (attributes.flatMap attributePieces) ++ rest)
      = afterAttributes rest := by
  induction attributes with
  | nil => rfl
  | cons a as ih =>
      rw [List.flatMap_cons, fillAll_append, List.append_assoc]
      exact ih

/-- A member is read back under its name. -/
theorem memberName?_memberPhrase (m : Member) :
    (memberPhrase runtime m).memberName? = some m.name := by
  obtain ⟨attributes, isPublic, name, content⟩ := m
  cases content with
  | constant type value =>
      simp only [Phrase.memberName?, Phrase.declared, memberPhrase, memberFront, fillAll_append,
        List.append_assoc, afterAttributes_fillAll]
      cases isPublic <;> rfl
  | function parameters result body =>
      simp only [Phrase.memberName?, Phrase.declared, memberPhrase, memberFront, fillAll_append,
        List.append_assoc, afterAttributes_fillAll]
      cases isPublic <;> rfl

theorem phrases_item {i : Item} (h : isSimple (itemPhrase runtime i).head = true)
    (rest : List PlainToken) :
    phrases (fillAll runtime i.pieces ++ rest) = itemPhrase runtime i :: phrases rest := by
  cases i with
  | struct given attributes visibility name fields =>
      rw [Item.pieces, fillAll_braces, List.append_assoc]
      exact phrases_append h rfl
  | implementation attributes binder trait type members =>
      cases trait with
      | none =>
          rw [Item.pieces, fillAll_braces, List.append_assoc]
          exact phrases_append h rfl
      | some t =>
          rw [Item.pieces, fillAll_braces, List.append_assoc]
          exact phrases_append h rfl
  | submodule name items =>
      rw [Item.pieces, fillAll_braces, List.append_assoc]
      exact phrases_append h rfl

theorem phrases_items {items : List Item}
    (h : ∀ i ∈ items, isSimple (itemPhrase runtime i).head = true) :
    phrases (fillAll runtime (Item.allPieces items)) = items.map (itemPhrase runtime) := by
  induction items with
  | nil => rfl
  | cons i is ih =>
      obtain ⟨hi, his⟩ := List.forall_mem_cons.mp h
      rw [Item.allPieces, fillAll_append, phrases_item hi, ih his, List.map_cons]

theorem parts_separated {ps : List (List Piece)}
    (h : ∀ p ∈ ps, isPart (fillAll runtime p) = true) :
    parts (fillAll runtime (separatedBy (sign ",") ps)) = ps.map (fillAll runtime) := by
  match ps with
  | [] => rfl
  | [p] => exact parts_last (h p List.mem_cons_self)
  | p :: q :: ps =>
      obtain ⟨hp, hps⟩ := List.forall_mem_cons.mp h
      have hrest : separatedBy (sign ",") (p :: q :: ps)
          = p ++ sign "," ++ separatedBy (sign ",") (q :: ps) := rfl
      rw [hrest, fillAll_append, fillAll_append, List.append_assoc]
      exact (parts_append hp rfl).trans (congrArg _ (parts_separated hps))

end Emitted

end CaptureTypes.Readback
