/-
# Paths and bounds

A piece of a path may have arguments, arguments are types, and types have
paths and bounds in them.  Everything here takes as a parameter how to read
the types and arguments inside.
-/
import CaptureTypes.Grammar.Attribute

namespace CaptureTypes.Grammar

/-- What kind of type was read, as far as what may follow depends on it. -/
inductive TypeKind where
  | name
  | path
  | bounds (single : Bool)
  | parenthesized
  | tuple
  | other
deriving DecidableEq, Repr

/-- A type that was read. -/
structure TypeShape where
  shape : Shape
  kind : TypeKind
deriving Repr

/-- How to read what is inside a path: a type, with whether it may be a sum of bounds, and an
argument, which says whether it is a lifetime. -/
structure Inside where
  type : (sum : Bool) → Reading TypeShape
  argument : Reading (Shape × Bool)

/-- A path that was read: how many pieces it has, whether colons lead it, whether any piece has
arguments, and whether the last one still may get some in parentheses. -/
structure PathShape where
  shape : Shape
  pieces : Nat
  leading : Bool
  bare : Bool
  mayTakeMore : Bool
deriving Repr

/-! ## Arguments between angle brackets -/

/-- Reads a value that is an argument. -/
def constant : Reading Shape := do
  if ← sees isLiteral then literal
  else if ← sees isIdentifier then name
  else enclosedOrUnfit
where
  /-- Reads a block. -/
  enclosedOrUnfit : Reading Shape := fun i =>
    match i.tokens with
    | .group _ .brace inner :: ts =>
      .ok ([.group () .brace (respaceAll 0 inner)], { i with tokens := ts })
    | ts => .error ⟨.unfit ts.isEmpty, i.front⟩

/-- Lifetimes before all other arguments; a comma between them is put in where it got lost. -/
def orderArguments (items : List ((Shape × Bool) × Bool)) : Shape :=
  let lifetimes := items.filter fun item => item.1.2
  let others := items.filter fun item => !item.1.2
  let comma : Shape := [.sign ',']
  let print (items : List ((Shape × Bool) × Bool)) : Shape :=
    items.flatMap fun item => item.1.1 ++ if item.2 then comma else []
  let endsOpen (items : List ((Shape × Bool) × Bool)) : Bool :=
    match items.getLast? with
    | some item => !item.2
    | none => false
  print lifetimes ++ (if endsOpen lifetimes && !others.isEmpty then comma else []) ++
    (others.zipIdx.flatMap fun (item, k) =>
      item.1.1 ++ if item.2 || k + 1 < others.length then comma else [])

/-- Whether an argument list comes next: an angle bracket that is no comparison, or one after
double colons. -/
def startsArguments (ts : List SourceToken) : Bool :=
  (isSign "<" ts && !isSign "<=" ts) ||
    match afterSign? "::" ts with
    | some ts => isSign "<" ts
    | none => false

/-- Whether arguments in parentheses come next. -/
def startsCall (ts : List SourceToken) : Bool :=
  isGroup .parenthesis ts ||
    match afterSign? "::" ts with
    | some ts => isGroup .parenthesis ts
    | none => false

section

variable (inside : Inside)

/-- Reads a type, for what is printed. -/
def Inside.shape (sum : Bool) : Reading Shape := do return (← inside.type sum).shape

/-- Reads an argument list between angle brackets; says whether it is empty. -/
def angled : Reading (Shape × Bool) := do
  let colons ← sign? "::"
  let left ← sign "<"
  let items ← separated (isSign ">") "," inside.argument
  let right ← sign ">"
  return (colons ++ left ++ orderArguments items ++ right, items.isEmpty)

/-- Reads a piece of a path with its arguments. -/
def piece : Reading PathShape := do
  if ← sees (isOneOf ["super", "self", "crate", "try"]) then
    return ⟨← anyWord, 1, false, true, true⟩
  let head ← if ← sees (isWord "Self") then anyWord else name
  if ← sees startsArguments then
    let (s, empty) ← angled inside
    return ⟨head ++ s, 1, false, false, empty⟩
  return ⟨head, 1, false, true, true⟩

/-- One path after another. -/
def PathShape.append (p : PathShape) (colons : Shape) (q : PathShape) : PathShape :=
  ⟨p.shape ++ colons ++ q.shape, p.pieces + q.pieces, p.leading, p.bare && q.bare, q.mayTakeMore⟩

/-- Whether a path goes on: double colons come next, but no call after them. -/
def pathGoesOn (ts : List SourceToken) : Bool :=
  match afterSign? "::" ts with
  | some ts => !isGroup .parenthesis ts
  | none => false

/-- Reads the further pieces of a path. -/
def morePieces : Nat → PathShape → Reading PathShape
  | 0, p => return p
  | fuel + 1, p => do
    if !(← sees pathGoesOn) then return p
    let colons ← sign "::"
    let q ← piece inside
    morePieces fuel (p.append colons q)

/-- Reads a path with the arguments of its pieces. -/
def path : Reading PathShape := do
  let colons ← sign? "::"
  let first ← piece inside
  morePieces inside (← room)
    { first with shape := colons ++ first.shape, leading := !colons.isEmpty }

/-- Reads what a function answers with, if it is said; and whether something may follow it. -/
def result : Reading (Shape × Bool) := do
  if ← sees (isSign "->") then
    let arrow ← sign "->"
    let t ← inside.type false
    return (arrow ++ t.shape, t.kind = .parenthesized)
  return ([], true)

/-- Reads arguments in parentheses and what the function answers with. -/
def call : Reading (Shape × Bool) := do
  let colons ← sign? "::"
  let inputs ← enclosed .parenthesis do
    return joined "," (← separated List.isEmpty "," (inside.shape true))
  let (output, more) ← result inside
  return (colons ++ inputs ++ output, more)

/-! ## Bounds -/

/-- Reads the bounds of a lifetime. -/
def lifetimeBounds (stop : List SourceToken → Bool) : Reading Shape := do
  return joined "+" (← chained stop "+" lifetime)

/-- Reads a lifetime that is declared. -/
def lifetimeParameter : Reading Shape := do
  let head ← lifetime
  if ← sees (isSign ":") then
    let colon ← sign ":"
    let bounds ← lifetimeBounds fun ts => ts.isEmpty || isSign "," ts || isSign ">" ts
    return head ++ colon ++ bounds
  return head

/-- Reads lifetimes that are declared for what follows. -/
def binder : Reading Shape := do
  let mark ← word "for"
  let left ← sign "<"
  let items ← separated (isSign ">") "," do
    let attributes ← outerAttributes
    if ← sees isLifetime then return attributes ++ (← lifetimeParameter)
    expected [.identifier, .lifetime, .word "const"]
  let right ← sign ">"
  return mark ++ left ++ joined "," items ++ right

/-- Reads lifetimes that are declared for what follows, if there are any. -/
def binder? : Reading Shape := do
  if ← sees (isWord "for") then binder else return []

/-- Reads the trait of a bound; `constant` says whether it may be limited to constants. -/
def traitBound (constant : Bool) : Reading Shape := do
  let early ← binder?
  let limit ←
    if constant && (← sees (isSign "~")) then pure ((← sign "~") ++ (← word "const"))
    else if constant then word? "const"
    else pure []
  let maybe ← sign? "?"
  let late ← if early.isEmpty && !maybe.isEmpty then binder? else pure []
  let path ← path inside
  let arguments ←
    if path.mayTakeMore && (← sees startsCall) then pure (← call inside).1 else pure []
  return early ++ limit ++ maybe ++ late ++ path.shape ++ arguments

/-- Reads a bound. -/
def bound (constant : Bool) : Reading Shape := do
  if ← sees isLifetime then lifetime
  else if ← sees (isGroup .parenthesis) then
    enclosed .parenthesis (traitBound inside constant)
  else traitBound inside constant

end

end CaptureTypes.Grammar
