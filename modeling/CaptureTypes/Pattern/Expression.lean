/-
# What a pattern means

An `Expression` is a pattern without its spelling: flags are gone, every
class is a set of characters, every assertion says which characters it
looks at.  The lengths of the texts that an expression matches decide how
it may be repeated, so `minLength` and `maxLength` stand here with the
constructors that use them.
-/
import CaptureTypes.Unicode.Property

namespace CaptureTypes.Pattern

/-- Which characters make words. -/
inductive WordKind where
  | ascii
  | unicode
deriving DecidableEq, Repr

/-- A condition on a place of the text, by the characters around it. -/
inductive Look where
  | startText
  | endText
  | startLine
  | endLine
  | startLineCrlf
  | endLineCrlf
  | boundary (kind : WordKind)
  | notBoundary (kind : WordKind)
  | wordStart (kind : WordKind)
  | wordEnd (kind : WordKind)
  | wordStartHalf (kind : WordKind)
  | wordEndHalf (kind : WordKind)
deriving DecidableEq, Repr

/-- The word characters of ASCII. -/
def asciiWord : CharSet := ⟨[(0x30, 0x39), (0x41, 0x5A), (0x5F, 0x5F), (0x61, 0x7A)]⟩

/-- Whether a character belongs to words; beyond the text there is none. -/
def WordKind.holds (k : WordKind) : Option Char → Bool
  | none => false
  | some c =>
    match k with
    | .ascii => asciiWord.contains c
    | .unicode => Unicode.Property.word.contains c

/-- Whether a condition holds between two neighbours. -/
def Look.holds (l : Look) (before after : Option Char) : Bool :=
  match l with
  | startText => before.isNone
  | endText => after.isNone
  | startLine => before.isNone || before == some '\n'
  | endLine => after.isNone || after == some '\n'
  | startLineCrlf =>
    before.isNone || before == some '\n' || (before == some '\r' && after != some '\n')
  | endLineCrlf =>
    after.isNone || after == some '\r' || (after == some '\n' && before != some '\r')
  | boundary k => k.holds before != k.holds after
  | notBoundary k => k.holds before == k.holds after
  | wordStart k => !k.holds before && k.holds after
  | wordEnd k => k.holds before && !k.holds after
  | wordStartHalf k => !k.holds before
  | wordEndHalf k => !k.holds after

/-- A pattern without its spelling. -/
inductive Expression where
  | empty
  | char (c : Char)
  | oneOf (set : CharSet)
  | look (l : Look)
  | repetition (min : Nat) (max : Option Nat) (greedy : Bool) (sub : Expression)
  | capture (index : Nat) (name : Option String) (sub : Expression)
  | sequence (parts : List Expression)
  | choice (branches : List Expression)
deriving Repr

/-! ## Lengths -/

/-- The bytes of a code point in UTF-8. -/
def encodedLength (n : Nat) : Nat :=
  if n < 0x80 then 1 else if n < 0x800 then 2 else if n < 0x10000 then 3 else 4

/-- The sum of two lengths, if both are known. -/
def addLengths (a b : Option Nat) : Option Nat :=
  match a, b with
  | some m, some n => some (m + n)
  | _, _ => none

/-- The better of two lengths, if both are known. -/
def chooseLength (better : Nat → Nat → Nat) (a b : Option Nat) : Option Nat :=
  match a, b with
  | some m, some n => some (better m n)
  | _, _ => none

namespace Expression

mutual

/-- The length in bytes of the shortest text matched, if there is any. -/
def minLength : Expression → Option Nat
  | .empty => some 0
  | .char c => some c.utf8Size
  | .oneOf set => set.ranges.head?.map fun r => encodedLength r.1
  | .look _ => some 0
  | .repetition min _ _ sub => sub.minLength.map (· * min)
  | .capture _ _ sub => sub.minLength
  | .sequence parts => minLengthParts parts
  | .choice branches => minLengthBranches branches

/-- The least length of a sequence. -/
def minLengthParts : List Expression → Option Nat
  | [] => some 0
  | e :: rest => addLengths e.minLength (minLengthParts rest)

/-- The least length among alternatives. -/
def minLengthBranches : List Expression → Option Nat
  | [] => none
  | [e] => e.minLength
  | e :: rest => chooseLength min e.minLength (minLengthBranches rest)

end

mutual

/-- The length in bytes of the longest text matched, if there is a longest one. -/
def maxLength : Expression → Option Nat
  | .empty => some 0
  | .char c => some c.utf8Size
  | .oneOf set => set.ranges.getLast?.map fun r => encodedLength r.2
  | .look _ => some 0
  | .repetition _ max _ sub =>
    match max, sub.maxLength with
    | some m, some n => some (n * m)
    | _, _ => none
  | .capture _ _ sub => sub.maxLength
  | .sequence parts => maxLengthParts parts
  | .choice branches => maxLengthBranches branches

/-- The greatest length of a sequence. -/
def maxLengthParts : List Expression → Option Nat
  | [] => some 0
  | e :: rest => addLengths e.maxLength (maxLengthParts rest)

/-- The greatest length among alternatives. -/
def maxLengthBranches : List Expression → Option Nat
  | [] => none
  | [e] => e.maxLength
  | e :: rest => chooseLength max e.maxLength (maxLengthBranches rest)

end

/-! ## Constructors that simplify -/

/-- A repetition.  Of an expression that matches nothing but the empty text one turn is as
good as many; no turn at all is the empty expression, and exactly one the expression itself. -/
def repeated (min : Nat) (max : Option Nat) (greedy : Bool) (sub : Expression) : Expression :=
  let (min, max) :=
    if sub.maxLength = some 0 then (Nat.min min 1, some (Nat.min (max.getD 1) 1)) else (min, max)
  match min, max with
  | 0, some 0 => .empty
  | 1, some 1 => sub
  | min, max => .repetition min max greedy sub

/-- The set that an expression of single characters stands for. -/
def asSet? : Expression → Option CharSet
  | .char c => some (.single c)
  | .oneOf set => some set
  | _ => none

/-- The set that alternatives of single characters stand for together. -/
def branchSet? : List Expression → Option CharSet
  | [] => some .empty
  | e :: rest =>
    match e.asSet?, branchSet? rest with
    | some s, some t => some ⟨s.ranges ++ t.ranges⟩
    | _, _ => none

/-- A set of characters; a single one stands for itself. -/
def ofSet (set : CharSet) : Expression :=
  match set.ranges with
  | [(lo, hi)] => if lo = hi then .char (Char.ofNat lo) else .oneOf set
  | _ => .oneOf set

/-- Alternatives; those of single characters are one set. -/
def ofBranches (branches : List Expression) : Expression :=
  match branches with
  | [e] => e
  | _ =>
    match branchSet? branches with
    | some set => ofSet set.normal
    | none => .choice branches

/-- A sequence; the empty expression adds nothing to it. -/
def ofParts (parts : List Expression) : Expression :=
  match parts.filter fun e => !(e matches .empty) with
  | [] => .empty
  | [e] => e
  | parts => .sequence parts

/-! ## Groups -/

mutual

/-- The groups of an expression with their names, in the order of their parentheses. -/
def captures : Expression → List (Nat × Option String)
  | .repetition _ _ _ sub => sub.captures
  | .capture index name sub => (index, name) :: sub.captures
  | .sequence parts => capturesAll parts
  | .choice branches => capturesAll branches
  | _ => []

/-- The groups of several expressions. -/
def capturesAll : List Expression → List (Nat × Option String)
  | [] => []
  | e :: rest => e.captures ++ capturesAll rest

end

end Expression

end CaptureTypes.Pattern
