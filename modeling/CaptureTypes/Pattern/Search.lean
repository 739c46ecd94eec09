/-
# Searching a text

All ways to match are followed at once, in the order of their preference,
one character after the other.  A thread is a step of the program and the
history that led to it: which groups were opened and closed, and where.
Between two characters no step is visited twice, and the first thread to
reach a step is the preferred one; so the work is bounded by the product of
the program and the text, whatever the pattern.

A thread that accepts ends all threads after it, but those before it may
still find a match that is preferred.  Once there is a match, no new start
is tried: the match found is the leftmost.

`search` looks for that match.  `occurs` only asks whether there is a match:
it ends with the first thread that accepts, preferred or not.
-/
import CaptureTypes.Pattern.Program

namespace CaptureTypes.Pattern

/-- A place in a text: the bytes and the character before it, and the characters after it. -/
structure Spot where
  bytes : Nat
  before : Option Char
  rest : List Char
deriving Repr, Inhabited, DecidableEq

namespace Spot

/-- The start of a text. -/
def start (text : List Char) : Spot := ⟨0, none, text⟩

/-- The place after the next character, if there is one. -/
def next? (s : Spot) : Option Spot :=
  match s.rest with
  | [] => none
  | c :: rest => some ⟨s.bytes + c.utf8Size, some c, rest⟩

/-- Whether a condition holds here. -/
def holds (s : Spot) (l : Look) : Bool := l.holds s.before s.rest.head?

end Spot

/-- An event on the way to a match: a group is opened or closed at a number of bytes. -/
inductive Mark where
  | opened (group bytes : Nat)
  | closed (group bytes : Nat)
deriving Repr, DecidableEq

/-- What happened on the way, the latest event first. -/
abbrev History := List Mark

/-- Where a group was last opened. -/
def lastOpened (group : Nat) : History → Option Nat
  | [] => none
  | .opened g bytes :: rest => if g = group then some bytes else lastOpened group rest
  | _ :: rest => lastOpened group rest

/-- The range that a group covered when it was last closed. -/
def lastRange (group : Nat) : History → Option (Nat × Nat)
  | [] => none
  | .closed g bytes :: rest =>
    if g = group then (lastOpened group rest).map fun start => (start, bytes)
    else lastRange group rest
  | _ :: rest => lastRange group rest

/-- A step to be taken, and what led to it. -/
structure Thread where
  step : Nat
  history : History
deriving Repr, Inhabited

/-- The thread with which a match starts. -/
def Program.first (p : Program) : Thread := ⟨p.start, []⟩

/-- The threads at one place that wait for a character or accept, the preferred first, and
the steps visited there. -/
structure Front where
  threads : Array Thread
  visited : Array Bool
deriving Repr, Inhabited

/-- No threads, for a program. -/
def Front.empty (p : Program) : Front := ⟨#[], Array.replicate p.steps.size false⟩

/-- Follows threads through the steps that need no character, the preferred first; `fuel`
bounds the number of moves. -/
def Front.follow (p : Program) (s : Spot) : Nat → List Thread → Front → Front
  | 0, _, f => f
  | _ + 1, [], f => f
  | fuel + 1, t :: rest, f =>
    if f.visited.getD t.step true then f.follow p s fuel rest
    else
      let f := { f with visited := f.visited.setIfInBounds t.step true }
      match p.step t.step with
      | .look l next => f.follow p s fuel (if s.holds l then ⟨next, t.history⟩ :: rest else rest)
      | .openGroup g next => f.follow p s fuel (⟨next, .opened g s.bytes :: t.history⟩ :: rest)
      | .closeGroup g next => f.follow p s fuel (⟨next, .closed g s.bytes :: t.history⟩ :: rest)
      | .branch nexts => f.follow p s fuel (nexts.map (⟨·, t.history⟩) ++ rest)
      | _ => { f with threads := f.threads.push t }.follow p s fuel rest

/-- Adds a thread of least preference. -/
def Front.add (p : Program) (s : Spot) (f : Front) (t : Thread) : Front :=
  f.follow p s p.moves [t]

/-- The step after a character, if the step takes it. -/
def Step.after? (c : Char) : Step → Option Nat
  | .char d next => if c = d then some next else none
  | .oneOf set next => if set.contains c then some next else none
  | _ => none

/-- The first thread that accepts, with the threads before it. -/
def accepted (p : Program) : List Thread → List Thread × Option History
  | [] => ([], none)
  | t :: rest =>
    match p.step t.step with
    | .accept => ([], some t.history)
    | _ =>
      let (before, found) := accepted p rest
      (t :: before, found)

/-- Takes the next character with all threads. -/
def advance (p : Program) (c : Char) (s : Spot) (threads : List Thread) : Front :=
  threads.foldl
    (fun f t =>
      match (p.step t.step).after? c with
      | some next => f.add p s ⟨next, t.history⟩
      | none => f)
    (Front.empty p)

/-- Searches from a place on: `f` holds the threads there, `best` the match found so far. -/
def searchFrom (p : Program) (bytes : Nat) (before : Option Char) :
    List Char → Front → Option History → Option History
  | rest, f, best =>
    let here : Spot := ⟨bytes, before, rest⟩
    let f := if best.isNone then f.add p here p.first else f
    let (threads, found) := accepted p f.threads.toList
    let best := found.or best
    match rest with
    | [] => best
    | c :: rest =>
      if threads.isEmpty && best.isSome then best
      else
        let bytes := bytes + c.utf8Size
        searchFrom p bytes (some c) rest (advance p c ⟨bytes, some c, rest⟩ threads) best

/-- The history of the leftmost match that starts at a place or after it. -/
def search (p : Program) (s : Spot) : Option History :=
  searchFrom p s.bytes s.before s.rest (Front.empty p) none

/-- Whether a thread accepts. -/
def Program.accepts (p : Program) (t : Thread) : Bool := p.step t.step matches .accept

/-- Whether a thread accepts at a place or after it: `f` holds the threads there. -/
def occursFrom (p : Program) (bytes : Nat) (before : Option Char) : List Char → Front → Bool
  | rest, f =>
    let f := f.add p ⟨bytes, before, rest⟩ p.first
    if f.threads.any p.accepts then true
    else
      match rest with
      | [] => false
      | c :: rest =>
        let bytes := bytes + c.utf8Size
        occursFrom p bytes (some c) rest (advance p c ⟨bytes, some c, rest⟩ f.threads.toList)

/-- Whether a match starts at a place or after it. -/
def occurs (p : Program) (s : Spot) : Bool :=
  occursFrom p s.bytes s.before s.rest (Front.empty p)

end CaptureTypes.Pattern
