/-
# `CharSet` — sets of characters as lists of code point intervals

A character class, a property of a standard and the step of a compiled
pattern all denote a set of characters.  One representation serves them:
a list of closed intervals of code points.  `contains` is membership;
`normal` sorts and joins the intervals, so that two lists with the same
members have the same normal form; the Boolean operations work on normal
lists and answer with one.

The lists range over all numbers up to `limit`, the gap of the surrogates
included.  No character lies in that gap, so it changes no membership.

Tables of a standard are written as text, a list of hexadecimal intervals
such as "30-39 41-5A 5F" on any number of lines, and read by `ofText`.
-/
import CaptureTypes.Text.Words

namespace CaptureTypes

/-- A set of characters: closed intervals of code points. -/
structure CharSet where
  ranges : List (Nat × Nat)
deriving Repr, DecidableEq, Inhabited

namespace CharSet

/-- The largest code point. -/
def limit : Nat := 0x10FFFF

/-- The set without members. -/
def empty : CharSet := ⟨[]⟩

/-- The set of all characters. -/
def all : CharSet := ⟨[(0, limit)]⟩

/-- The set with one member. -/
def single (c : Char) : CharSet := ⟨[(c.toNat, c.toNat)]⟩

/-- Membership of a code point. -/
def has (s : CharSet) (n : Nat) : Bool :=
  s.ranges.any fun r => r.1 ≤ n && n ≤ r.2

/-- Membership of a character. -/
def contains (s : CharSet) (c : Char) : Bool := s.has c.toNat

/-- Whether every member is an ASCII character. -/
def isAscii (s : CharSet) : Bool := s.ranges.all fun r => r.2 ≤ 0x7F

/-! ## Normal lists -/

/-- Puts one interval before a normal list whose intervals start no earlier,
joining those that it touches. -/
def join (lo hi : Nat) : List (Nat × Nat) → List (Nat × Nat)
  | [] => [(lo, hi)]
  | (a, b) :: rest =>
    if a ≤ hi + 1 then join lo (max hi b) rest else (lo, hi) :: (a, b) :: rest

/-- The normal form: sorted, disjoint, no two intervals adjacent. -/
def normal (s : CharSet) : CharSet :=
  ⟨(s.ranges.mergeSort (fun r t => decide (r.1 ≤ t.1))).foldr (fun r acc => join r.1 r.2 acc) []⟩

/-- The members of either set. -/
def union (s t : CharSet) : CharSet := normal ⟨s.ranges ++ t.ranges⟩

/-- The intervals from `lo` on that a normal list leaves out. -/
def gaps (lo : Nat) : List (Nat × Nat) → List (Nat × Nat)
  | [] => if lo ≤ limit then [(lo, limit)] else []
  | (a, b) :: rest => if lo < a then (lo, a - 1) :: gaps (b + 1) rest else gaps (b + 1) rest

/-- The characters that are no members. -/
def complement (s : CharSet) : CharSet := ⟨gaps 0 s.normal.ranges⟩

/-- The common members. -/
def inter (s t : CharSet) : CharSet := complement (union (complement s) (complement t))

/-- The members of the first set alone. -/
def diff (s t : CharSet) : CharSet := inter s (complement t)

/-- The members of exactly one of the sets. -/
def symmDiff (s t : CharSet) : CharSet := union (diff s t) (diff t s)

/-! ## Tables as text -/

/-- The value of a hexadecimal digit in upper case. -/
def hexDigit (c : Char) : Nat :=
  if c.isDigit then c.toNat - '0'.toNat else c.toNat - 'A'.toNat + 10

/-- The number that hexadecimal digits write. -/
def hexNumber (cs : List Char) : Nat := cs.foldl (fun n c => n * 16 + hexDigit c) 0

/-- A word up to a mark, and what follows the mark. -/
def splitAt (mark : Char) (word : List Char) : List Char × List Char :=
  (word.takeWhile (· ≠ mark), (word.dropWhile (· ≠ mark)).drop 1)

/-- One interval: a code point, or two with a dash between them. -/
def readInterval (word : List Char) : Nat × Nat :=
  let (lo, hi) := splitAt '-' word
  (hexNumber lo, hexNumber (if hi.isEmpty then lo else hi))

/-- The set that a table of intervals describes. -/
def ofText (table : String) : CharSet := ⟨(Text.words table.toList).map readInterval⟩

/-- One stretch: its first code point, a colon and a label; it reaches up to the next one. -/
def readRun (word : List Char) : Nat × String :=
  let (first, label) := splitAt ':' word
  (hexNumber first, String.ofList label)

/-- The intervals of the stretches whose label passes a test. -/
def selectRuns (p : String → Bool) : List (Nat × String) → List (Nat × Nat)
  | [] => []
  | [(a, name)] => if p name then [(a, limit)] else []
  | (a, name) :: (b, other) :: rest =>
    if p name then (a, b - 1) :: selectRuns p ((b, other) :: rest)
    else selectRuns p ((b, other) :: rest)

/-- The set of the characters whose label in a table of stretches passes a test. -/
def ofRuns (table : String) (p : String → Bool) : CharSet :=
  normal ⟨selectRuns p ((Text.words table.toList).map readRun)⟩

end CharSet

end CaptureTypes
