/-
# Reading a construct from tokens

`Reading` takes what it needs from the front of the tokens.  At the end of
them a complaint points to the scope: the closing delimiter of the group
whose tokens are read, or the start of a text that is no group.

Tokens that nothing reads inside a group are reported only if nothing worse
is found.  Until then the first of them is kept in `leftover`.
-/
import CaptureTypes.Grammar.Complaint
import CaptureTypes.Token.Name

namespace CaptureTypes.Grammar

/-- The tokens of a construct as they are printed. -/
abbrev Shape := List PlainToken

/-- The tokens still to be read. -/
structure Input where
  tokens : List SourceToken
  scope : Extent
  leftover : Option Complaint
deriving Repr

/-- Reads something from the front of the tokens. -/
abbrev Reading (α : Type) := StateT Input (Except Complaint) α

/-! ## Looking ahead -/

/-- The tokens after the signs of an operator at their front; all but the last one have to be
joint. -/
def afterSigns? : List Char → List SourceToken → Option (List SourceToken)
  | [], ts => some ts
  | c :: cs, .sign _ d joint :: ts =>
    if d ≠ c then none
    else if cs.isEmpty then some ts
    else if joint then afterSigns? cs ts
    else none
  | _ :: _, _ => none

/-- The tokens after an operator at their front. -/
def afterSign? (text : String) (ts : List SourceToken) : Option (List SourceToken) :=
  afterSigns? text.toList ts

/-- Whether an operator is at the front. -/
def isSign (text : String) (ts : List SourceToken) : Bool := (afterSign? text ts).isSome

/-- Whether a given word is at the front. -/
def isWord (text : String) : List SourceToken → Bool
  | .word _ s :: _ => s == text
  | _ => false

/-- Whether one of given words is at the front. -/
def isOneOf (texts : List String) (ts : List SourceToken) : Bool := texts.any (isWord · ts)

/-- Whether any word is at the front. -/
def isAnyWord : List SourceToken → Bool
  | .word _ _ :: _ => true
  | _ => false

/-- Whether a name is at the front. -/
def isIdentifier : List SourceToken → Bool
  | .word _ s :: _ => Token.isName s
  | _ => false

/-- Whether a group is at the front. -/
def isGroup (d : Delimiter) : List SourceToken → Bool
  | .group _ e _ :: _ => e == d
  | _ => false

/-- Whether a lifetime is at the front. -/
def isLifetime : List SourceToken → Bool
  | .sign _ '\'' true :: .word _ _ :: _ => true
  | _ => false

/-- Whether a literal of numbers begins a text. -/
def isNumber (text : String) : Bool :=
  match text.toList with
  | c :: _ => c.isDigit
  | [] => false

/-- The literal at the front, which may be a truth value or a number with a minus, and the
tokens after it. -/
def literal? : List SourceToken → Option (Shape × List SourceToken)
  | .literal _ s :: ts => some ([.literal s], ts)
  | .sign _ '-' _ :: .literal _ s :: ts =>
    if isNumber s then some ([.sign '-', .literal s], ts) else none
  | .word _ s :: ts => if s == "true" || s == "false" then some ([.word s], ts) else none
  | _ => none

/-- Whether a literal is at the front. -/
def isLiteral (ts : List SourceToken) : Bool := (literal? ts).isSome

/-! ## Complaining -/

/-- Where a complaint about the front of the tokens points. -/
def Input.front (i : Input) : Extent :=
  match i.tokens with
  | [] => i.scope
  | t :: _ => t.front

/-- The complaint that something else is expected at the front. -/
def Input.complain (i : Input) (ws : List Wanted) : Complaint :=
  ⟨.expected ws i.tokens.isEmpty, i.front⟩

/-- Whether the tokens at the front pass a test. -/
def sees (p : List SourceToken → Bool) : Reading Bool := fun i => .ok (p i.tokens, i)

/-- Fails because something else is expected at the front. -/
def expected {α : Type} (ws : List Wanted) : Reading α := fun i => .error (i.complain ws)

/-! ## Reading single tokens -/

/-- Reads an operator. What is missing at the end of the tokens is not said to be so. -/
def sign (text : String) : Reading Shape := fun i =>
  match afterSign? text i.tokens with
  | some ts => .ok (PlainToken.signs text.toList, { i with tokens := ts })
  | none => .error ⟨.expected [.sign text] false, i.front⟩

/-- Reads a given word. -/
def word (text : String) : Reading Shape := fun i =>
  match i.tokens with
  | .word _ s :: ts =>
    if s == text then .ok ([.word s], { i with tokens := ts })
    else .error (i.complain [.word text])
  | _ => .error (i.complain [.word text])

/-- Reads any word. -/
def anyWord : Reading Shape := fun i =>
  match i.tokens with
  | .word _ s :: ts => .ok ([.word s], { i with tokens := ts })
  | _ => .error (i.complain [.identifier])

/-- Reads a name. -/
def identifier : Reading String := fun i =>
  match i.tokens with
  | .word _ s :: ts =>
    if Token.isName s then .ok (s, { i with tokens := ts })
    else .error (i.complain [.identifierNotKeyword s])
  | _ => .error (i.complain [.identifier])

/-- Reads a name, for what is printed. -/
def name : Reading Shape := do return [.word (← identifier)]

/-- Reads a lifetime. -/
def lifetime : Reading Shape := fun i =>
  match i.tokens with
  | .sign _ '\'' true :: .word _ s :: ts => .ok (PlainToken.lifetime s, { i with tokens := ts })
  | _ => .error (i.complain [.lifetime])

/-- Reads a literal. -/
def literal : Reading Shape := fun i =>
  match literal? i.tokens with
  | some (s, ts) => .ok (s, { i with tokens := ts })
  | none => .error ⟨.unfit i.tokens.isEmpty, i.front⟩

/-- Reads an operator if it is at the front. -/
def sign? (text : String) : Reading Shape := do
  if ← sees (isSign text) then sign text else return []

/-- Reads a word if it is at the front. -/
def word? (text : String) : Reading Shape := do
  if ← sees (isWord text) then word text else return []

/-- Reads all tokens that are left, of which there has to be one. -/
def remaining : Reading (List SourceToken) := fun i =>
  if i.tokens.isEmpty then .error (i.complain [.expression])
  else .ok (i.tokens, { i with tokens := [] })

/-! ## Reading groups and lists -/

/-- What is left over inside a group, if anything is. -/
def Input.unread (i : Input) (inside : Option Delimiter) : Option Complaint :=
  match i.tokens with
  | [] => none
  | t :: _ => some ⟨.leftover inside, t.place⟩

/-- Reads a group by reading what it encloses. -/
def within {α : Type} (d : Delimiter) (p : Reading α) : Reading (Extent × α) := fun i =>
  match i.tokens with
  | .group place e inner :: ts =>
    if e = d then
      match p ⟨inner, place.closing, i.leftover⟩ with
      | .error c => .error c
      | .ok (a, j) => .ok ((place, a), ⟨ts, i.scope, j.leftover <|> j.unread (some d)⟩)
    else .error (i.complain [.group d])
  | _ => .error (i.complain [.group d])

/-- Reads a group by reading what it encloses, for what is printed. -/
def enclosed (d : Delimiter) (p : Reading Shape) : Reading Shape := do
  let (_, s) ← within d p
  return [.group () d s]

/-- Reads items with a separator between them up to a stop; a separator may also stand before
the stop. With each item it is said whether a separator follows. -/
def listUntil {α : Type} (stop : List SourceToken → Bool) (separator : String)
    (item : Reading α) : Nat → Reading (List (α × Bool))
  | 0 => return []
  | fuel + 1 => do
    if ← sees stop then return []
    let a ← item
    if ← sees stop then return [(a, false)]
    let _ ← sign separator
    return (a, true) :: (← listUntil stop separator item fuel)

/-- Reads items as long as a separator follows, but none at a stop. -/
def listWhile {α : Type} (stop : List SourceToken → Bool) (separator : String)
    (item : Reading α) : Nat → Reading (List (α × Bool))
  | 0 => return []
  | fuel + 1 => do
    if ← sees stop then return []
    let a ← item
    if !(← sees (isSign separator)) then return [(a, false)]
    let _ ← sign separator
    return (a, true) :: (← listWhile stop separator item fuel)

/-- A number of items that no list exceeds. -/
def room : Reading Nat := fun i => .ok (i.tokens.length + 1, i)

/-- Reads items up to a stop. -/
def separated {α : Type} (stop : List SourceToken → Bool) (separator : String)
    (item : Reading α) : Reading (List (α × Bool)) := do
  listUntil stop separator item (← room)

/-- Reads items as long as a separator follows. -/
def chained {α : Type} (stop : List SourceToken → Bool) (separator : String)
    (item : Reading α) : Reading (List (α × Bool)) := do
  listWhile stop separator item (← room)

/-- Reads items as long as they begin with tokens that pass a test. -/
def repeated (starts : List SourceToken → Bool) (item : Reading Shape) : Nat → Reading Shape
  | 0 => return []
  | fuel + 1 => do
    if !(← sees starts) then return []
    return (← item) ++ (← repeated starts item fuel)

/-- Items with the separators after them. -/
def joined (separator : String) (items : List (Shape × Bool)) : Shape :=
  items.flatMap fun (s, more) => s ++ if more then PlainToken.signs separator.toList else []

/-! ## Reading a whole text -/

/-- Reads tokens to their end. -/
def readTokens {α : Type} (p : Reading α) (ts : List SourceToken) : Except Complaint α :=
  match p ⟨ts, .nowhere, none⟩ with
  | .error c => .error c
  | .ok (a, i) =>
    match i.leftover <|> i.unread none with
    | some c => .error c
    | none => .ok a

/-- Reads a text to its end. -/
def readText {α : Type} (p : Reading α) (text : String) : Except Complaint α :=
  match Token.readAll text with
  | .error e => .error ⟨.notTokens, e⟩
  | .ok ts => readTokens p ts

end CaptureTypes.Grammar
