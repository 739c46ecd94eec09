/-
# Types

All kinds of types are read, though only what they consist of is kept.
`typeWith` reads a type given how to read what is inside it; as that has
fewer tokens, their number bounds how often the reader is unfolded.
-/
import CaptureTypes.Grammar.Path

namespace CaptureTypes.Grammar

/-- Whether a bound may begin with the tokens at the front. -/
def startsBound (ts : List SourceToken) : Bool :=
  isAnyWord ts || isSign "::" ts || isSign "?" ts || isLifetime ts || isGroup .parenthesis ts

/-- What may begin a type, in the order in which it is looked for. -/
def typeStarts : List Wanted :=
  [.word "for", .group .parenthesis, .word "fn", .word "unsafe", .word "extern", .identifier,
   .sign "::", .sign "<", .word "dyn", .group .bracket, .sign "*", .sign "&", .sign "!",
   .word "impl", .word "_", .lifetime]

/-- What may follow lifetimes that are declared for a type. -/
def boundTypeStarts : List Wanted :=
  [.identifier, .word "fn", .word "unsafe", .word "extern", .word "super", .word "self",
   .word "Self", .word "crate"]

/-- Whether a constant that is an argument is at the front. -/
def startsConstant (ts : List SourceToken) : Bool := isLiteral ts || isGroup .brace ts

/-- The extent of the first token, or of the name of the lifetime at the front. -/
def frontExtent : Reading Extent := fun i =>
  match i.tokens with
  | .sign _ '\'' true :: .word place _ :: _ => .ok (place, i)
  | _ => .ok (i.front, i)

section

variable (inside : Inside)

/-- Reads an argument of a path; says whether it is a lifetime. -/
def argumentWith : Reading (Shape × Bool) := do
  let loneLifetime ← sees fun ts => isLifetime ts && !isSign "+" (ts.drop 2)
  if loneLifetime then return (← lifetime, true)
  if ← sees startsConstant then return (← constant, false)
  let t ← inside.type true
  if t.kind = .name then
    if ← sees (isSign "=") then
      let equal ← sign "="
      let value ← if ← sees startsConstant then constant else inside.shape true
      return (t.shape ++ equal ++ value, false)
    if ← sees (isSign ":") then
      let colon ← sign ":"
      let bounds ← chained (fun ts => isSign "," ts || isSign ">" ts) "+" (bound inside true)
      return (t.shape ++ colon ++ joined "+" bounds, false)
  return (t.shape, false)

/-- Reads further bounds after a plus, as long as one follows. -/
def moreBounds : Nat → Reading Shape
  | 0 => return []
  | fuel + 1 => do
    if !(← sees (isSign "+")) then return []
    let plus ← sign "+"
    let next ← bound inside false
    return plus ++ next ++ (← moreBounds fuel)

/-- Reads a sum of bounds, with whether there is a trait among them and where the last lifetime
stands. -/
def boundSum (sum constant : Bool) (last : Extent) : Nat → Reading (Shape × Bool × Extent)
  | 0 => return ([], true, last)
  | fuel + 1 => do
    let isTrait ← sees fun ts => !isLifetime ts
    let here ← frontExtent
    let first ← bound inside constant
    let last := if isTrait then last else here
    if !(sum && (← sees (isSign "+"))) then return (first, isTrait, last)
    let plus ← sign "+"
    let more ← sees fun ts =>
      startsBound ts || (constant && (isGroup .bracket ts || isWord "const" ts))
    if !more then return (first ++ plus, isTrait, last)
    let (rest, restHasTrait, last) ← boundSum sum constant last fuel
    return (first ++ plus ++ rest, isTrait || restHasTrait, last)

/-- Reads a sum of bounds of which one has to be a trait; complaints begin at a given place. -/
def bounds (sum object : Bool) (start : Extent) : Reading Shape := do
  let (s, hasTrait, last) ← boundSum inside sum (!object) start (← room)
  if hasTrait then return s
  fun _ => .error ⟨.noTrait object, start.through last⟩

/-- Reads a type that names a path under a type. -/
def underType : Reading PathShape := do
  let left ← sign "<"
  let this ← inside.shape true
  let under ←
    if ← sees (isWord "as") then pure ((← word "as") ++ (← path inside).shape) else pure []
  let right ← sign ">"
  let colons ← sign "::"
  let first ← piece inside
  let rest ← moreUnder (← room) first
  return { rest with shape := left ++ this ++ under ++ right ++ colons ++ rest.shape }
where
  /-- Reads the further pieces; no call may follow here. -/
  moreUnder : Nat → PathShape → Reading PathShape
    | 0, p => return p
    | fuel + 1, p => do
      if !(← sees (isSign "::")) then return p
      let colons ← sign "::"
      let q ← piece inside
      moreUnder fuel (p.append colons q)

/-- Reads the calls after a path, as long as there are any; says whether there were. -/
def calls : Nat → PathShape → Reading (PathShape × Bool)
  | 0, p => return (p, false)
  | fuel + 1, p => do
    if !(p.mayTakeMore && (← sees startsCall)) then return (p, false)
    let (s, more) ← call inside
    let p := { p with shape := p.shape ++ s, bare := false, mayTakeMore := false }
    if !more then return (p, true)
    let p ← morePieces inside (← room) p
    return ((← calls fuel p).1, true)

/-- Reads a type that begins with a path. -/
def pathType (sum : Bool) (binders : Shape) : Reading TypeShape := do
  if ← sees (isSign "<") then
    let p ← underType inside
    let (p, _) ← calls inside (← room) p
    return ⟨binders ++ p.shape, .other⟩
  let p ← path inside
  let (p, called) ← calls inside (← room) p
  let isMacro ← sees fun ts => p.bare && isSign "!" ts && !isSign "!=" ts
  if isMacro then
    let mark ← sign "!"
    let body : Shape ← fun i =>
      match i.tokens with
      | .group place d inner :: ts =>
        .ok ([(Token.group place d inner).plain], { i with tokens := ts })
      | _ => .error (i.complain [.group .parenthesis])
    return ⟨binders ++ p.shape ++ mark ++ body, .other⟩
  if !binders.isEmpty || (sum && (← sees (isSign "+"))) then
    if !(sum && (← sees (isSign "+"))) then return ⟨binders ++ p.shape, .bounds true⟩
    let plus ← sign "+"
    if !(← sees startsBound) then return ⟨binders ++ p.shape ++ plus, .bounds false⟩
    let (rest, _, _) ← boundSum inside true false .nowhere (← room)
    return ⟨binders ++ p.shape ++ plus ++ rest, .bounds false⟩
  let isName := p.pieces = 1 && !p.leading && !called
  return ⟨p.shape, if isName then .name else .path⟩

/-- What a type is that is alone in parentheses, as far as a sum of bounds may begin with it. -/
def TypeKind.alone : TypeKind → TypeKind
  | bounds true => path
  | bounds false => parenthesized
  | kind => kind

/-- Reads what stands in the parentheses of a type. -/
def parenthesized : Reading TypeShape := do
  if ← sees List.isEmpty then return ⟨[], .tuple⟩
  if ← sees isLifetime then
    return ⟨← bounds inside true true (← frontExtent), .parenthesized⟩
  if ← sees (isSign "?") then
    return ⟨← traitBound inside false, .bounds true⟩
  let first ← inside.type true
  if !(← sees (isSign ",")) then return ⟨first.shape, first.kind.alone⟩
  let comma ← sign ","
  let rest ← separated List.isEmpty "," (inside.shape true)
  return ⟨first.shape ++ comma ++ joined "," rest, .tuple⟩

/-- Reads a type that begins with parentheses. -/
def groupedType (sum : Bool) : Reading TypeShape := do
  let (_, t) ← within .parenthesis (parenthesized inside)
  let whole : Shape := [.group () .parenthesis t.shape]
  match t.kind with
  | .tuple => return ⟨whole, .other⟩
  | .bounds _ => return ⟨whole ++ (← moreBounds inside (← room)), .bounds false⟩
  | kind =>
    if (kind = .name || kind = .path) && sum && (← sees (isSign "+")) then
      return ⟨whole ++ (← moreBounds inside (← room)), .bounds false⟩
    return ⟨whole, .parenthesized⟩

/-- Reads one input of a function type. -/
def functionInput : Reading Shape := do
  let attributes ← outerAttributes
  let named ← sees fun ts =>
    (isIdentifier ts || isWord "_" ts || isWord "self" ts) && isSign ":" (ts.drop 1) &&
      !isSign "::" (ts.drop 1)
  let head ← if named then pure ((← anyWord) ++ (← sign ":")) else pure []
  if ← sees (isSign "...") then return attributes ++ head ++ (← sign "...")
  return attributes ++ head ++ (← inside.shape true)

/-- Reads the type of a function. -/
def functionType (binders : Shape) : Reading TypeShape := do
  let limit ← word? "unsafe"
  let linkage ←
    if ← sees (isWord "extern") then
      let head ← word "extern"
      let abi ← if ← sees isLiteral then literal else pure []
      pure (head ++ abi)
    else pure []
  let head ← word "fn"
  let inputs ← enclosed .parenthesis do
    return joined "," (← separated List.isEmpty "," (functionInput inside))
  let (output, _) ← result inside
  return ⟨binders ++ limit ++ linkage ++ head ++ inputs ++ output, .other⟩

/-- Reads what stands in the brackets of a type: an element and, if there are a known number of
them, how many. -/
def elements : Reading Shape := do
  let element ← inside.shape true
  if ← sees (isSign ";") then
    let semicolon ← sign ";"
    let length ← remaining
    return element ++ semicolon ++ respaceAll 0 length
  return element

/-- Reads a pointer after its star. -/
def pointer (star : Shape) : Reading TypeShape := do
  let kind ←
    if ← sees (isOneOf ["const", "mut"]) then anyWord
    else expected [.word "const", .word "mut"]
  return ⟨star ++ kind ++ (← inside.shape false), .other⟩

/-- Reads a type; `sum` says whether it may be a sum of bounds. -/
def typeWith (sum : Bool) : Reading TypeShape := do
  let binders ← binder?
  let isFunction ← sees (isOneOf ["fn", "unsafe", "extern"])
  let isPath ← sees isPathWord
  if !binders.isEmpty && !isFunction && !isPath then expected boundTypeStarts
  if ← sees (isGroup .parenthesis) then groupedType inside sum
  else if isFunction then functionType inside binders
  else if isPath || (← sees fun ts => isSign "::" ts || isSign "<" ts) then
    pathType inside sum binders
  else if ← sees (isWord "dyn") then
    let start ← frontExtent
    let head ← word "dyn"
    let star ← sign? "*"
    return ⟨head ++ star ++ (← bounds inside sum true start), .other⟩
  else if ← sees (isGroup .bracket) then
    return ⟨← enclosed .bracket (elements inside), .other⟩
  else if ← sees (isSign "*") then pointer inside (← sign "*")
  else if ← sees (isSign "&") then
    let mark ← sign "&"
    let life ← if ← sees isLifetime then lifetime else pure []
    let mutable ← word? "mut"
    return ⟨mark ++ life ++ mutable ++ (← inside.shape false), .other⟩
  else if ← sees (isSign "!") then return ⟨← sign "!", .other⟩
  else if ← sees (isWord "impl") then
    let start ← frontExtent
    let head ← word "impl"
    return ⟨head ++ (← bounds inside sum false start), .other⟩
  else if ← sees (isWord "_") then return ⟨← anyWord, .other⟩
  else if ← sees isLifetime then
    return ⟨← bounds inside sum true (← frontExtent), .bounds false⟩
  else expected typeStarts

end

/-! ## Types of any depth -/

/-- How to read types and arguments up to a depth. -/
def inside : Nat → Inside
  | 0 => ⟨fun _ => expected typeStarts, expected typeStarts⟩
  | depth + 1 => ⟨typeWith (inside depth), argumentWith (inside depth)⟩

/-- How to read the types and arguments in the tokens that are left. -/
def insideHere : Reading Inside := fun i => .ok (inside (Token.sizeAll i.tokens + 1), i)

/-- Reads a path whose pieces may have arguments between angle brackets. -/
def fullPath : Reading Shape := do return (← path (← insideHere)).shape

/-- The path that a text holds. -/
def path? (text : String) : Option Shape :=
  match readText fullPath text with
  | .ok s => some s
  | .error _ => none

end CaptureTypes.Grammar
