/-
# Attributes and visibility

What may stand before a declaration: attributes, of which the documents of
comments are a kind, and a word about who may see it.
-/
import CaptureTypes.Grammar.Input
import CaptureTypes.Grammar.Spacing

namespace CaptureTypes.Grammar

/-- The words that may be a piece of a path though they are no names. -/
def pathWords : List String := ["super", "self", "Self", "crate"]

/-- Whether a piece of a path is at the front. -/
def isPathWord (ts : List SourceToken) : Bool := isIdentifier ts || isOneOf pathWords ts

/-- Reads the pieces of a path without arguments, with whether double colons follow each. -/
def pathPieces : Nat → Reading (List (Shape × Bool))
  | 0 => return []
  | fuel + 1 => do
    if !(← sees isPathWord) then return []
    let s ← anyWord
    if !(← sees (isSign "::")) then return [(s, false)]
    let _ ← sign "::"
    return (s, true) :: (← pathPieces fuel)

/-- Reads a path without arguments. -/
def plainPath : Reading Shape := do
  let leading ← sign? "::"
  let pieces ← pathPieces (← room)
  match pieces.getLast? with
  | none => name
  | some (_, true) => expected [.segment]
  | some (_, false) => return leading ++ joined "::" pieces

/-- Reads the value that is given to a name: a literal, or an expression, which is not looked
into. -/
def attributeValue : Reading Shape := fun i =>
  match literal? i.tokens with
  | some (s, []) => .ok (s, { i with tokens := [] })
  | _ =>
    match i.tokens with
    | .sign _ '#' _ :: .group _ .bracket _ :: _ => .error ⟨.nestedAttribute, i.front⟩
    | _ => (remaining i).map fun (ts, i) => (respaceAll 0 ts, i)

/-- Reads what an attribute says: a path, alone, with a group, or with a value. -/
def attributeBody : Reading Shape := do
  let path ← if ← sees (isWord "unsafe") then word "unsafe" else plainPath
  if ← sees (isSign "=") then
    let equal ← sign "="
    return path ++ equal ++ (← attributeValue)
  fun i =>
    match i.tokens with
    | .group place d inner :: ts =>
      .ok (path ++ [(Token.group place d inner).plain], { i with tokens := ts })
    | _ => .ok (path, i)

/-- Reads an attribute. -/
def outerAttribute : Reading Shape := do
  let mark ← sign "#"
  return mark ++ (← enclosed .bracket attributeBody)

/-- Reads attributes. -/
def outerAttributes : Reading Shape := do repeated (isSign "#") outerAttribute (← room)

/-- Whether a group of parentheses after a word says who may see a declaration: it holds
nothing but one word for a module, or names a path. -/
def restricts (inner : List SourceToken) : Bool :=
  match inner with
  | [.word _ s] => s == "crate" || s == "self" || s == "super"
  | ts => isWord "in" ts

/-- Reads who may see a declaration: nobody is named, or all, or a module. -/
def visibility : Reading Shape := do
  if !(← sees (isWord "pub")) then return []
  let everyone ← word "pub"
  let restricted ← sees fun ts =>
    match ts with
    | .group _ .parenthesis inner :: _ => restricts inner
    | _ => false
  if !restricted then return everyone
  return everyone ++ (← enclosed .parenthesis do
    if ← sees (isWord "in") then
      let within ← word "in"
      return within ++ (← plainPath)
    else anyWord)

end CaptureTypes.Grammar
