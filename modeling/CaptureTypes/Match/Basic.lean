/-
# Matches of a matcher type

A `Matcher` is what a generated type knows: the compiled pattern and the
groups that have an accessor.  It is asked four questions: is there a match,
which is the leftmost, the same into a slot, and all of them.  The first
needs no groups and has a search of its own; the walk over all matches keeps
where the next search begins.
-/
import CaptureTypes.Group
import CaptureTypes.Match.Capture
import CaptureTypes.Pattern.Compiled

namespace CaptureTypes

/-- A match: the captures of all groups from group 0 on, group 0 apart, and the groups with
an accessor. -/
structure Match where
  whole : Capture
  captures : List (Option Capture)
  groups : List MatchGroup
deriving DecidableEq, Repr, Inhabited

namespace Match

/-- The text matched. -/
def value (m : Match) : String := m.whole.value

/-- The range of the match. -/
def range (m : Match) : Nat × Nat := m.whole.range

end Match

/-- A compiled pattern and the groups with an accessor. -/
structure Matcher where
  compiled : Pattern.Compiled
  accessors : List Group
deriving Repr, Inhabited

namespace Matcher

/-- A range of a text as a capture. -/
def captureOf (text : String) (range : Nat × Nat) : Capture := ⟨text, range.1, range.2⟩

/-- One group of a match, by the captures of all groups. -/
def bind (captures : List (Option Capture)) (g : Group) : MatchGroup :=
  ⟨g.index, if g.named then some g.rawName else none, (captures[g.index]?).join⟩

/-- The match with given ranges of the groups. -/
def matchOf (m : Matcher) (text : String) (found : (Nat × Nat) × Pattern.Ranges) : Match :=
  let captures := found.2.map fun range => range.map (captureOf text)
  ⟨captureOf text found.1, captures, m.accessors.map (bind captures)⟩

/-- Whether there is a match. -/
def isMatch (m : Matcher) (text : String) : Bool := m.compiled.matchesIn text.toList

/-- The leftmost match. -/
def find (m : Matcher) (text : String) : Option Match :=
  (m.compiled.searchIn text.toList).map (m.matchOf text)

/-- The leftmost match, put into a slot whatever the slot held; the answer says whether there
is one. -/
def tryMatch (m : Matcher) (text : String) (_slot : Option Match) : Bool × Option Match :=
  let found := m.find text
  (found.isSome, found)

end Matcher

/-! ## All matches -/

/-- A walk over the matches of a text. -/
structure Matches where
  text : String
  scan : Pattern.Scan
deriving Repr, Inhabited

namespace Matches

/-- The next match, if there is one, and the walk after it. -/
def next (m : Matcher) (walk : Matches) : Option Match × Matches :=
  let (found, scan) := walk.scan.next m.compiled
  (found.map (m.matchOf walk.text), { walk with scan := scan })

/-- At most a number of the matches that remain, and the walk after them. -/
def drain (m : Matcher) : Nat → Matches → List Match × Matches
  | 0, walk => ([], walk)
  | fuel + 1, walk =>
    match walk.next m with
    | (none, walk) => ([], walk)
    | (some found, walk) =>
      let (rest, walk) := drain m fuel walk
      (found :: rest, walk)

/-- All matches that remain: there is at most one for each place between the characters, and
one turn more shows that none is left. -/
def rest (m : Matcher) (walk : Matches) : List Match × Matches :=
  walk.drain m (walk.text.length + 2)

end Matches

namespace Matcher

/-- A walk over all matches of a text. -/
def walk (_m : Matcher) (text : String) : Matches := ⟨text, .start text.toList⟩

/-- All matches of a text, left to right. -/
def findAll (m : Matcher) (text : String) : List Match := ((m.walk text).rest m).1

end Matcher

end CaptureTypes
