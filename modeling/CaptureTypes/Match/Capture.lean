/-
# What a group captured

A capture is a range of the searched text; its value is the part of the
text in that range.  Two captures are the same if they have the same range
of the same text.

A `MatchGroup` is a group within one match.  A group that took no part in
the match has no capture, and its value is the empty text.
-/
import CaptureTypes.Json.Value
import CaptureTypes.Text.Quoted
import CaptureTypes.Text.Slice

namespace CaptureTypes

/-- A range of a text, in bytes. -/
structure Capture where
  text : String
  start : Nat
  stop : Nat
deriving DecidableEq, Repr, Inhabited

namespace Capture

/-- The part of the text in the range. -/
def value (c : Capture) : String := String.ofList (Text.slice c.start c.stop c.text.toList)

/-- The range. -/
def range (c : Capture) : Nat × Nat := (c.start, c.stop)

/-- A capture as it is shown in reports. -/
def shown (c : Capture) : String :=
  "Match \x7b start: " ++ toString c.start ++ ", end: " ++ toString c.stop ++ ", string: " ++
    Text.shown c.value ++ " \x7d"

end Capture

/-- A value or nothing, as it is shown in reports. -/
def shownOption : Option String → String
  | some s => "Some(" ++ s ++ ")"
  | none => "None"

/-- One group within one match. -/
structure MatchGroup where
  index : Nat
  name : Option String
  capture : Option Capture
deriving DecidableEq, Repr, Inhabited

namespace MatchGroup

/-- The captured text, or the empty one. -/
def value (g : MatchGroup) : String := (g.capture.map Capture.value).getD ""

/-- A group is displayed by its value. -/
instance : ToString MatchGroup := ⟨value⟩

/-- All texts captured, of which there is at most one. -/
def values (g : MatchGroup) : List String := (g.capture.map Capture.value).toList

/-- The number of texts captured. -/
def captureCount (g : MatchGroup) : Nat := if g.capture.isSome then 1 else 0

/-- Whether the group took part in the match. -/
def isMatched (g : MatchGroup) : Bool := g.capture.isSome

/-- The range of the capture. -/
def range (g : MatchGroup) : Option (Nat × Nat) := g.capture.map Capture.range

/-- Whether the captured text is the given one. -/
def holds (g : MatchGroup) (text : String) : Bool := g.value == text

/-- A group as an object. -/
def toJson (g : MatchGroup) : Json :=
  .object [("index", .number g.index), ("name", .textOrNull g.name), ("value", .text g.value),
    ("range", .rangeOrNull g.range)]

/-- A group as it is shown in reports. -/
def shown (g : MatchGroup) : String :=
  "MatchGroup \x7b index: " ++ toString g.index ++
    ", name: " ++ shownOption (g.name.map Text.shown) ++
    ", capture: " ++ shownOption (g.capture.map Capture.shown) ++ " \x7d"

end MatchGroup

end CaptureTypes
