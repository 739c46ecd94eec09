/-
# Sessions with a matcher

A session asks a matcher about several texts, one question after the other.
Its state is what a user would hold: the slot of the last match, the walks
begun so far, and the groups kept aside.  `Session.step` answers one
question and says what is held after it.
-/
import CaptureTypes.Match.Basic

namespace CaptureTypes

/-- A question; texts, walks and kept groups are given by number, accessors by their slot. -/
inductive Question where
  | isMatch (text : Nat)
  | tryMatch (text : Nat)
  | find (text : Nat)
  | count (text : Nat)
  | found
  | value
  | range
  | rawLength
  | group (slot : Nat)
  | shown (slot : Nat)
  | holds (slot : Nat) (text : String)
  | same (slot other : Nat)
  | keep (slot : Nat)
  | kept
  | keptSame (first second : Nat)
  | walk (text : Nat)
  | next (walk : Nat)
  | rest (walk : Nat)
deriving Repr

/-- An answer. -/
inductive Answer where
  | nothing
  | truth (b : Bool)
  | truths (bs : List Bool)
  | number (n : Nat)
  | text (s : String)
  | texts (ss : List String)
  | range (r : Nat × Nat)
  | matched (m : Match)
  | group (g : MatchGroup)
  | groups (gs : List MatchGroup)
deriving Repr

/-- An answer or nothing. -/
def Answer.ofOption {α : Type} (f : α → Answer) : Option α → Answer
  | some a => f a
  | none => .nothing

/-- What a session holds. -/
structure Session where
  slot : Option Match
  walks : List Matches
  kept : List MatchGroup
deriving Repr

namespace Session

/-- A session that holds nothing. -/
def start : Session := ⟨none, [], []⟩

/-- The group in a slot of the match held. -/
def groupAt (s : Session) (slot : Nat) : Option MatchGroup := s.slot.bind fun m => m.groups[slot]?

/-- Answers a question. -/
def step (m : Matcher) (texts : List String) (s : Session) : Question → Answer × Session
  | .isMatch i => (.truth (m.isMatch (texts.getD i "")), s)
  | .tryMatch i =>
    let (ok, slot) := m.tryMatch (texts.getD i "") s.slot
    (.truth ok, { s with slot := slot })
  | .find i =>
    let slot := m.find (texts.getD i "")
    (.ofOption .matched slot, { s with slot := slot })
  | .count i => (.number (m.findAll (texts.getD i "")).length, s)
  | .found => (.ofOption .matched s.slot, s)
  | .value => (.ofOption .text (s.slot.map Match.value), s)
  | .range => (.ofOption .range (s.slot.map Match.range), s)
  | .rawLength => (.ofOption .number (s.slot.map fun m => m.captures.length), s)
  | .group i => (.ofOption .group (s.groupAt i), s)
  | .shown i => (.ofOption .text ((s.groupAt i).map MatchGroup.shown), s)
  | .holds i text =>
    (.ofOption .truths ((s.groupAt i).map fun g => [g.holds text, g.holds text]), s)
  | .same i j =>
    (.ofOption .truth (do some (decide ((← s.groupAt i) = (← s.groupAt j)))), s)
  | .keep i =>
    let kept := s.kept ++ (s.groupAt i).toList
    (.number kept.length, { s with kept := kept })
  | .kept => (.groups s.kept, s)
  | .keptSame i j => (.ofOption .truth (do some (decide ((← s.kept[i]?) = (← s.kept[j]?)))), s)
  | .walk i => (.number s.walks.length, { s with walks := s.walks ++ [m.walk (texts.getD i "")] })
  | .next i =>
    match s.walks[i]? with
    | none => (.nothing, s)
    | some walk =>
      let (found, walk) := walk.next m
      (.ofOption .matched found, { s with walks := s.walks.set i walk })
  | .rest i =>
    match s.walks[i]? with
    | none => (.nothing, s)
    | some walk =>
      let (found, walk) := walk.rest m
      (.texts (found.map Match.value), { s with walks := s.walks.set i walk })

/-- Answers questions one after the other. -/
def run (m : Matcher) (texts : List String) (s : Session) : List Question → List Answer
  | [] => []
  | q :: rest =>
    let (answer, s) := s.step m texts q
    answer :: run m texts s rest

end Session

end CaptureTypes
