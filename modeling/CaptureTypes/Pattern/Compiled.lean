/-
# Compiled patterns

A `Recipe` is what the engine is told: a pattern and the values of the
toggles.  `Recipe.compile` reads it, gives it its meaning, refuses what is
too heavy and lays out the program.  `Compiled.searchIn` answers with the
ranges of all groups, `Compiled.matchesIn` only whether there is a match, and
`Scan` walks over all matches of a text.
-/
import CaptureTypes.Options
import CaptureTypes.Pattern.Report
import CaptureTypes.Pattern.Search
import CaptureTypes.Pattern.Meaning
import CaptureTypes.Pattern.Weight

namespace CaptureTypes.Pattern

/-- Why a recipe does not compile. -/
inductive CompileError where
  | malformed (pattern : String) (fault : Fault)
  | tooHeavy
deriving DecidableEq, Repr

/-- The words for an error. -/
def CompileError.message : CompileError → String
  | malformed pattern fault => report pattern.toList fault
  | tooHeavy => "Compiled regex exceeds size limit of " ++ toString weightLimit ++ " bytes."

/-- A pattern and the values of the toggles under which it is compiled. -/
structure Recipe where
  pattern : String
  options : Options
deriving DecidableEq, Repr

/-- A recipe that says nothing but the pattern. -/
def Recipe.of (pattern : String) : Recipe := ⟨pattern, .standard⟩

/-- The recipe with another value of one toggle. -/
def Recipe.set (r : Recipe) (t : Toggle) (value : Bool) : Recipe :=
  { r with options := r.options.set t value }

/-- The recipe with every toggle set as the options say. -/
def Recipe.configure (r : Recipe) (o : Options) : Recipe :=
  Toggle.all.foldl (fun r t => r.set t (o.get t)) r

/-- A compiled pattern: its source, the names of its groups from group 0 on, and its
program. -/
structure Compiled where
  source : String
  groups : List (Option String)
  program : Program
deriving Repr, Inhabited

/-- The names of the groups from 0 up to the highest one that is left; one that was dropped
keeps its number but not its name. -/
def groupNames (captures : List (Nat × Option String)) : List (Option String) :=
  let highest := captures.foldl (fun n c => max n c.1) 0
  (List.range (highest + 1)).map fun i => (captures.lookup i).join

/-- How a pattern is read under options. -/
def modeOf (o : Options) : Mode := ⟨o.ignoreWhitespace, o.octal⟩

/-- The flags in force at the start of a pattern. -/
def switchesOf (o : Options) : Switches where
  ignoreCase := o.ignoreCase
  multiLine := o.multiLine
  dotNewLine := o.dotMatchesNewLine
  swapGreed := o.swapGreed
  crlf := o.crlf
  unicode := o.unicode

/-- The meaning of a recipe. -/
def Recipe.meaning (r : Recipe) : Except Fault Expression := do
  let t ← read (modeOf r.options) r.pattern.toList
  let (e, _) ← (switchesOf r.options).express t
  .ok e

/-- Compiles a recipe. -/
def Recipe.compile (r : Recipe) : Except CompileError Compiled :=
  match r.meaning with
  | .error fault => .error (.malformed r.pattern fault)
  | .ok e =>
    if e.isTooHeavy then .error .tooHeavy
    else .ok ⟨r.pattern, groupNames e.captures, .ofExpression e⟩

/-- The ranges of the groups of a match, from group 0 on. -/
abbrev Ranges := List (Option (Nat × Nat))

namespace Compiled

/-- The ranges of the groups of the leftmost match that starts at a place or after it, and
the range of the match itself. -/
def searchAt (c : Compiled) (s : Spot) : Option ((Nat × Nat) × Ranges) := do
  let history ← search c.program s
  let whole ← lastRange 0 history
  some (whole, (List.range c.groups.length).map fun g => lastRange g history)

/-- The ranges of the groups of the leftmost match in a text. -/
def searchIn (c : Compiled) (text : List Char) : Option ((Nat × Nat) × Ranges) :=
  c.searchAt (.start text)

/-- Whether a pattern matches anywhere in a text. -/
def matchesIn (c : Compiled) (text : List Char) : Bool := occurs c.program (.start text)

end Compiled

/-! ## All matches -/

/-- The place a number of bytes into a text, from a place before it. -/
def Spot.forward (bytes : Nat) (before : Option Char) (stop : Nat) : List Char → Spot
  | [] => ⟨bytes, before, []⟩
  | c :: rest =>
    if stop ≤ bytes then ⟨bytes, before, c :: rest⟩
    else Spot.forward (bytes + c.utf8Size) (some c) stop rest

/-- A walk over the matches of a text: where to search next, and where the last match ended. -/
structure Scan where
  spot : Spot
  lastEnd : Option Nat
deriving Repr, Inhabited

namespace Scan

/-- A walk from the start of a text. -/
def start (text : List Char) : Scan := ⟨.start text, none⟩

/-- A walk after a search from a place: if a match was found the walk goes on from its end, and if
none was, it stays where the search began. -/
def pass (scan : Scan) (s : Spot) :
    Option ((Nat × Nat) × Ranges) → Option ((Nat × Nat) × Ranges) × Scan
  | none => (none, { scan with spot := s })
  | some found =>
    (some found, ⟨Spot.forward s.bytes s.before found.1.2 s.rest, some found.1.2⟩)

/-- The next match, if there is one, and the walk after it.  An empty match where the last one
ended is passed over: the search resumes one character later, if there is one.  A walk without a
next match has no mark of its end; asked again, it searches again. -/
def next (c : Compiled) (scan : Scan) : Option ((Nat × Nat) × Ranges) × Scan :=
  match c.searchAt scan.spot with
  | none => scan.pass scan.spot none
  | some first =>
    if first.1.1 = first.1.2 ∧ some first.1.2 = scan.lastEnd then
      match scan.spot.next? with
      | none => (none, scan)
      | some s => scan.pass s (c.searchAt s)
    else scan.pass scan.spot (some first)

end Scan

end CaptureTypes.Pattern
