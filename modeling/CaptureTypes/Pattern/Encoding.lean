/-
# Sets of characters as sets of byte sequences

The engine matches bytes.  A set of characters becomes a list of
sequences of byte intervals, and the number of states that these need is
what a class costs.  Here stand the sequences and two counts: of the states
that read them forward, where sequences with the same remainder share a
state, and of those that read them backward, where sequences with the same
beginning share one.
-/
import CaptureTypes.Pattern.Expression

namespace CaptureTypes.Pattern.Encoding

/-- The bytes of a code point. -/
def encode (n : Nat) : List Nat :=
  if n < 0x80 then [n]
  else if n < 0x800 then [0xC0 + n / 64, 0x80 + n % 64]
  else if n < 0x10000 then [0xE0 + n / 4096, 0x80 + n / 64 % 64, 0x80 + n % 64]
  else [0xF0 + n / 262144, 0x80 + n / 4096 % 64, 0x80 + n / 64 % 64, 0x80 + n % 64]

/-- Where an interval of code points has to be cut so that every byte varies on its own, if
anywhere: the last code point of the first piece. -/
def cut? (lo hi : Nat) : Option Nat :=
  let bounds := [0x7F, 0x7FF, 0xD7FF, 0xDFFF, 0xFFFF]
  match bounds.find? fun b => lo ≤ b && b < hi with
  | some b => some b
  | none =>
    let widths := [64, 4096, 262144].filter fun w => lo / w != hi / w
    widths.findSome? fun w =>
      if hi < 0x80 then none
      else if lo % w != 0 then some (lo / w * w + w - 1)
      else if hi % w != w - 1 then some (hi / w * w - 1)
      else none

/-- Cuts an interval into pieces; `fuel` bounds their number. -/
def pieces : Nat → Nat → Nat → List (Nat × Nat)
  | 0, lo, hi => [(lo, hi)]
  | fuel + 1, lo, hi =>
    match cut? lo hi with
    | some b => pieces fuel lo b ++ pieces fuel (b + 1) hi
    | none => [(lo, hi)]

/-- The sequences of byte intervals of a set. -/
def sequences (set : CharSet) : List (List (Nat × Nat)) :=
  (set.ranges.flatMap fun r => pieces 12 r.1 r.2).filterMap fun r =>
    if 0xD800 ≤ r.1 && r.2 ≤ 0xDFFF then none else some ((encode r.1).zip (encode r.2))

/-- The length of the beginning that two sequences share. -/
def shared : List (Nat × Nat) → List (Nat × Nat) → Nat
  | a :: as, b :: bs => if a = b then shared as bs + 1 else 0
  | _, _ => 0

/-- The states that sequences in order need when those with the same beginning share them. -/
def prefixCount (before : List (Nat × Nat)) : List (List (Nat × Nat)) → Nat
  | [] => 0
  | s :: rest => (s.length - shared before s) + prefixCount s rest

/-- Splits sequences in order by their first interval. -/
def byFirst : List (List (Nat × Nat)) → List ((Nat × Nat) × List (List (Nat × Nat)))
  | [] => []
  | [] :: rest => byFirst rest
  | (a :: as) :: rest =>
    match byFirst rest with
    | (b, group) :: groups =>
      if a = b then (b, as :: group) :: groups else (a, [as]) :: (b, group) :: groups
    | [] => [(a, [as])]

/-- All states that read sequences forward, each as the sequences that remain to be read. -/
def states : Nat → List (List (Nat × Nat)) → List (List (List (Nat × Nat)))
  | 0, _ => []
  | depth + 1, seqs =>
    if seqs.all (·.isEmpty) then []
    else seqs :: (byFirst seqs).flatMap fun group => states depth group.2

/-- The weight of the states that read a set forward, each counted once: a state has a
weight of its own and one for every interval that leaves it. -/
def forwardWeight (set : CharSet) : Nat :=
  ((states 4 (sequences set)).eraseDups.map fun s => 32 + 8 * (byFirst s).length).foldr (· + ·) 0

/-- The weight of the states that read a set backward. -/
def backwardWeight (set : CharSet) : Nat :=
  let seqs := sequences set
  32 * prefixCount [] seqs + 4 * seqs.length

end CaptureTypes.Pattern.Encoding
