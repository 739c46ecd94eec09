/-
# The weight of a pattern

A pattern is compiled into states that read a text forward and states that
read it backward.  Repetitions are written out, so a short pattern can need
a great many of them; `isTooHeavy` refuses it before anything is built.
The weights are bytes: a state counts 32, and more for what it refers to.
-/
import CaptureTypes.Pattern.Encoding

namespace CaptureTypes.Pattern

/-- The bytes that a compiled pattern may take. -/
def weightLimit : Nat := 10485760

/-- The two directions in which a pattern reads a text. -/
inductive Direction where
  | forward
  | backward
deriving DecidableEq, Repr

/-- The weight of a set of characters. -/
def setWeight (d : Direction) (set : CharSet) : Nat :=
  if set.isAscii then 64 + 8 * set.ranges.length
  else match d with
    | .forward => 32 + Encoding.forwardWeight set
    | .backward => 64 + Encoding.backwardWeight set

/-- The weight of a repetition, by that of the part repeated. -/
def repetitionWeight (min : Nat) (max : Option Nat) (nonEmpty : Bool) (sub : Nat) : Nat :=
  match max with
  | none =>
    if min = 0 then if nonEmpty then sub + 40 else sub + 112
    else min * sub + 40
  | some m =>
    if min = 0 && m = 1 then sub + 72
    else if m ≤ min then min * sub
    else min * sub + (m - min) * (sub + 40) + 32

mutual

/-- The weight of an expression. -/
def Expression.weight (d : Direction) : Expression → Nat
  | .empty => 32
  | .char c => 32 * c.utf8Size
  | .oneOf set => setWeight d set
  | .look _ => 32
  | .repetition min max _ sub =>
    repetitionWeight min max (sub.minLength.any (0 < ·)) (sub.weight d)
  | .capture _ _ sub => sub.weight d + (if d = .forward then 64 else 0)
  | .sequence parts => weightAll d parts
  | .choice branches => 64 + 4 * branches.length + weightAll d branches

/-- The weight of several expressions. -/
def weightAll (d : Direction) : List Expression → Nat
  | [] => 0
  | e :: rest => e.weight d + weightAll d rest

end

/-- What every compiled pattern weighs besides its expression: the search for a start, the
group of the whole match, and the state that accepts. -/
def frameWeight : Direction → Nat
  | .forward => 208
  | .backward => 144

/-- Whether an expression is too heavy in either direction. -/
def Expression.isTooHeavy (e : Expression) : Bool :=
  weightLimit < frameWeight .forward + e.weight .forward ||
    weightLimit < frameWeight .backward + e.weight .backward

end CaptureTypes.Pattern
