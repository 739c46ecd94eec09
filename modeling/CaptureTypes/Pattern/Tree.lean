/-
# Patterns as they are written

`Tree` is the grammar of patterns with the span of every part, `Bracket`
that of the classes in square brackets.  Flags are recorded where they
stand; what they change is decided when the tree is given its meaning.
-/
import CaptureTypes.Pattern.Place

namespace CaptureTypes.Pattern

/-- Conditions on a place of the searched text. -/
inductive AssertionKind where
  | startLine
  | endLine
  | startText
  | endText
  | wordBoundary
  | notWordBoundary
  | wordStart
  | wordEnd
  | wordStartHalf
  | wordEndHalf
deriving DecidableEq, Repr

/-- A character of a pattern; `isByte` marks one written with two hexadecimal digits. -/
structure Literal where
  span : Span
  char : Char
  isByte : Bool
deriving DecidableEq, Repr

/-- The classes with a letter of their own. -/
inductive PerlClass where
  | digit
  | space
  | word
deriving DecidableEq, Repr

/-- The classes with a name between colons. -/
inductive AsciiClass where
  | alnum
  | alpha
  | ascii
  | blank
  | cntrl
  | digit
  | graph
  | lower
  | print
  | punct
  | space
  | upper
  | word
  | xdigit
deriving DecidableEq, Repr

/-- What a property class asks for. -/
inductive Query where
  | name (name : String)
  | value (unequal : Bool) (property value : String)
deriving DecidableEq, Repr

/-- A class by a property of the standard. -/
structure PropertyClass where
  span : Span
  negated : Bool
  query : Query
deriving DecidableEq, Repr

/-- Whether the class holds the characters without the property. -/
def PropertyClass.isNegated (p : PropertyClass) : Bool :=
  match p.query with
  | .value true _ _ => !p.negated
  | _ => p.negated

/-- Operations between two sides of a bracketed class. -/
inductive SetOp where
  | intersection
  | difference
  | symmetricDifference
deriving DecidableEq, Repr

/-- The inside of a bracketed class. -/
inductive Bracket where
  | nothing (span : Span)
  | literal (l : Literal)
  | range (span : Span) (lo hi : Literal)
  | ascii (span : Span) (negated : Bool) (kind : AsciiClass)
  | property (p : PropertyClass)
  | perl (span : Span) (negated : Bool) (kind : PerlClass)
  | nested (span : Span) (negated : Bool) (inner : Bracket)
  | union (span : Span) (items : List Bracket)
  | binary (span : Span) (op : SetOp) (lhs rhs : Bracket)
deriving Repr

/-- The span of the inside of a class. -/
def Bracket.span : Bracket → Span
  | nothing s => s
  | literal l => l.span
  | range s _ _ => s
  | ascii s _ _ => s
  | property p => p.span
  | perl s _ _ => s
  | nested s _ _ => s
  | union s _ => s
  | binary s _ _ _ => s

/-- The switches that a pattern can turn. -/
inductive Flag where
  | ignoreCase
  | multiLine
  | dotNewLine
  | swapGreed
  | unicode
  | crlf
  | verbose
deriving DecidableEq, Repr

/-- One sign of a list of flags; `none` is the sign that negates those after it. -/
structure FlagItem where
  span : Span
  flag : Option Flag
deriving DecidableEq, Repr

/-- The value that a list of flags gives to one of them, if any. -/
def flagValue (f : Flag) (value : Bool) : List FlagItem → Option Bool
  | [] => none
  | item :: rest =>
    match item.flag with
    | none => flagValue f false rest
    | some g => if g = f then some value else flagValue f value rest

/-- What a pair of parentheses is for. -/
inductive GroupKind where
  | numbered (index : Nat)
  | named (index : Nat) (name : String)
  | plain (flags : List FlagItem)
deriving Repr

/-- A pattern. -/
inductive Tree where
  | nothing (span : Span)
  | flags (span : Span) (items : List FlagItem)
  | literal (l : Literal)
  | dot (span : Span)
  | assertion (span : Span) (kind : AssertionKind)
  | property (p : PropertyClass)
  | perl (span : Span) (negated : Bool) (kind : PerlClass)
  | bracket (span : Span) (negated : Bool) (inner : Bracket)
  | repetition (span : Span) (min : Nat) (max : Option Nat) (greedy : Bool) (sub : Tree)
  | group (span : Span) (kind : GroupKind) (sub : Tree)
  | alternation (span : Span) (subs : List Tree)
  | concat (span : Span) (subs : List Tree)
deriving Repr

namespace Tree

/-- The span of a pattern. -/
def span : Tree → Span
  | nothing s => s
  | flags s _ => s
  | literal l => l.span
  | dot s => s
  | assertion s _ => s
  | property p => p.span
  | perl s _ _ => s
  | bracket s _ _ => s
  | repetition s _ _ _ _ => s
  | group s _ _ => s
  | alternation s _ => s
  | concat s _ => s

/-- A sequence; one part stands for itself. -/
def ofParts (span : Span) : List Tree → Tree
  | [] => nothing span
  | [t] => t
  | ts => concat span ts

/-- Alternatives; a single one stands for itself. -/
def ofBranches (span : Span) : List Tree → Tree
  | [] => nothing span
  | [t] => t
  | ts => alternation span ts

end Tree

/-! ## Depth -/

mutual

/-- The span of the first part of a class nested too deep, in the order of the text. -/
def Bracket.tooDeep (depth : Nat) (limit : Nat) : Bracket → Option Span
  | .nested s _ inner => if depth < limit then inner.tooDeep (depth + 1) limit else some s
  | .union s items => if depth < limit then tooDeepItems (depth + 1) limit items else some s
  | .binary s _ lhs rhs =>
    if depth < limit then
      (lhs.tooDeep (depth + 1) limit).orElse fun _ => rhs.tooDeep (depth + 1) limit
    else some s
  | _ => none

/-- The first part of several nested too deep. -/
def tooDeepItems (depth limit : Nat) : List Bracket → Option Span
  | [] => none
  | b :: rest => (b.tooDeep depth limit).orElse fun _ => tooDeepItems depth limit rest

end

mutual

/-- The span of the first part of a pattern nested too deep, in the order of the text. -/
def Tree.tooDeep (depth : Nat) (limit : Nat) : Tree → Option Span
  | .bracket s _ inner => if depth < limit then inner.tooDeep (depth + 1) limit else some s
  | .repetition s _ _ _ sub => if depth < limit then sub.tooDeep (depth + 1) limit else some s
  | .group s _ sub => if depth < limit then sub.tooDeep (depth + 1) limit else some s
  | .alternation s subs => if depth < limit then tooDeepParts (depth + 1) limit subs else some s
  | .concat s subs => if depth < limit then tooDeepParts (depth + 1) limit subs else some s
  | _ => none

/-- The first part of several nested too deep. -/
def tooDeepParts (depth limit : Nat) : List Tree → Option Span
  | [] => none
  | t :: rest => (t.tooDeep depth limit).orElse fun _ => tooDeepParts depth limit rest

end

end CaptureTypes.Pattern
