/-
# Placeholders

The attribute stands on a placeholder: a struct that says what the matcher
type is called and who may see it.  Any struct is read, with fields and
generics; whether it is a fit placeholder is decided later, so that a
complaint can point to what is too much.
-/
import CaptureTypes.Grammar.Type

namespace CaptureTypes.Grammar

/-- The fields of a struct, with the extent of the group that holds them. -/
inductive Fields where
  | unit
  | tuple (extent : Extent)
  | named (extent : Extent)
deriving DecidableEq, Repr

/-- The extent of fields, if there are any to point to. -/
def Fields.extent? : Fields → Option Extent
  | unit => none
  | tuple e => some e
  | named e => some e

/-- A struct as it was read. `parameters` is the extent of the generics if they have at least
one parameter. -/
structure Placeholder where
  attributes : Shape
  visibility : Shape
  name : String
  parameters : Option Extent
  hasWhere : Bool
  fields : Fields
deriving Repr

section

variable (inside : Inside)

/-- Reads the bounds after a colon. -/
def boundsAfterColon (stop : List SourceToken → Bool) : Reading Unit := do
  if ← sees (isSign ":") then
    let _ ← sign ":"
    let _ ← chained stop "+" (bound inside true)

/-- Reads a parameter of generics. -/
def parameter : Reading Unit := do
  let _ ← outerAttributes
  if ← sees isLifetime then
    let _ ← lifetimeParameter
  else if ← sees isIdentifier then
    let _ ← name
    boundsAfterColon inside fun ts =>
      ts.isEmpty || isSign "," ts || isSign ">" ts || isSign "=" ts
    if ← sees (isSign "=") then
      let _ ← sign "="
      let _ ← inside.type true
  else if ← sees (isWord "const") then
    let _ ← word "const"
    let _ ← name
    let _ ← sign ":"
    let _ ← inside.type true
    if ← sees (isSign "=") then
      let _ ← sign "="
      let _ ← constant
  else if ← sees (isWord "_") then
    let _ ← anyWord
  else expected [.lifetime, .identifier, .word "const"]

/-- Reads generics; the answer is their extent if they have a parameter. -/
def generics : Reading (Option Extent) := do
  if !(← sees (isSign "<")) then return none
  let start ← frontExtent
  let _ ← sign "<"
  let items ← separated (isSign ">") "," (parameter inside)
  let stop ← frontExtent
  let _ ← sign ">"
  return if items.isEmpty then none else some (start.through stop)

/-- Whether a list in a `where` clause ends before the tokens at the front. -/
def endsClause (ts : List SourceToken) : Bool :=
  ts.isEmpty || isGroup .brace ts || isSign "," ts || isSign ";" ts ||
    (isSign ":" ts && !isSign "::" ts) || isSign "=" ts

/-- Reads one condition of a `where` clause. -/
def condition : Reading Unit := do
  if ← sees fun ts => isLifetime ts && isSign ":" (ts.drop 2) then
    let _ ← lifetime
    let _ ← sign ":"
    let _ ← lifetimeBounds endsClause
  else
    let _ ← binder?
    let _ ← inside.type true
    let _ ← sign ":"
    let _ ← chained endsClause "+" (bound inside true)

/-- Reads a `where` clause. -/
def whereClause : Reading Unit := do
  let _ ← word "where"
  let _ ← chained endsClause "," (condition inside)

/-- Reads a field of a tuple. -/
def tupleField : Reading Unit := do
  let _ ← outerAttributes
  let _ ← visibility
  let _ ← inside.type true

/-- Reads a field with a name. -/
def namedField : Reading Unit := do
  let _ ← outerAttributes
  let _ ← visibility
  let _ ← if ← sees (isWord "_") then anyWord else name
  let _ ← sign ":"
  let _ ← inside.type true

/-- Reads what comes after the generics of a struct: whether there is a `where` clause, and the
fields. -/
def body : Reading (Bool × Fields) := do
  let hasWhere ← sees (isWord "where")
  if hasWhere then whereClause inside
  if !hasWhere && (← sees (isGroup .parenthesis)) then
    let (extent, _) ← within .parenthesis (separated List.isEmpty "," (tupleField inside))
    let hasWhere ← sees (isWord "where")
    if hasWhere then whereClause inside
    if ← sees (isSign ";") then
      let _ ← sign ";"
      return (hasWhere, .tuple extent)
    expected (if hasWhere then [.sign ";"] else [.word "where", .sign ";"])
  else if ← sees (isGroup .brace) then
    let (extent, _) ← within .brace (separated List.isEmpty "," (namedField inside))
    return (hasWhere, .named extent)
  else if ← sees (isSign ";") then
    let _ ← sign ";"
    return (hasWhere, .unit)
  else
    expected (if hasWhere then [.group .brace, .sign ";"]
      else [.word "where", .group .parenthesis, .group .brace, .sign ";"])

end

/-- Reads a struct. -/
def placeholder : Reading Placeholder := do
  let attributes ← outerAttributes
  let visibility ← visibility
  let _ ← word "struct"
  let name ← identifier
  let inside ← insideHere
  let parameters ← generics inside
  let (hasWhere, fields) ← body inside
  return ⟨attributes, visibility, name, parameters, hasWhere, fields⟩

/-- The struct that a text holds. -/
def placeholder? (text : String) : Except Complaint Placeholder := readText placeholder text

/-- The attributes that a text holds. -/
def attributes? (text : String) : Option Shape := (readText outerAttributes text).toOption

/-- The visibility that a text holds. -/
def visibility? (text : String) : Option Shape := (readText visibility text).toOption

end CaptureTypes.Grammar
