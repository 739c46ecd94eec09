/-
# Matcher types at work

A `MatcherType` is what is left of a declaration when the generated type
runs: its name, the matcher, and the methods of its accessors in the order
of the groups.  A match of it can be asked for a group by method, and is
shown in reports with everything it holds.
-/
import CaptureTypes.Emission.Generate
import CaptureTypes.Match.Basic

namespace CaptureTypes

/-- A generated type. -/
structure MatcherType where
  name : String
  pattern : String
  matcher : Matcher
  methods : List String
deriving Repr, Inhabited

/-- The type that a declaration generates. -/
def Spec.matcherType (s : Spec) : Except GenerateError MatcherType :=
  match s.resolve with
  | .error e => .error e
  | .ok r =>
    match s.namesWith r with
    | .error e => .error e
    | .ok names =>
      .ok ⟨names.typeName, s.pattern, r.matcher,
        names.accessors.map Emission.Accessor.method⟩

/-- What the runtime says when a pattern that was generated does not compile. -/
def startupFailure (e : Pattern.CompileError) : String :=
  "typed_regex: pattern accepted at generation time failed to build: " ++ e.message

/-- Compiles a pattern at the first use of its type. -/
def Pattern.Recipe.compileAtStartup (r : Pattern.Recipe) : Except String Pattern.Compiled :=
  match r.compile with
  | .ok c => .ok c
  | .error e => .error (startupFailure e)

/-! ## Reports -/

/-- A capture as it is shown among the captures of a match: its range and its text. -/
def Capture.shownInMatch (c : Capture) : String :=
  toString c.start ++ ".." ++ toString c.stop ++ "/" ++ Text.shown c.value

/-- The captures of a match as they are shown, by number and name. -/
def shownCaptures (names : List (Option String)) (captures : List (Option Capture)) : String :=
  let one (entry : (Option String × Option Capture) × Nat) : String :=
    toString entry.2 ++
      (match entry.1.1 with
        | some name => "/" ++ Text.shown name
        | none => "") ++
      ": " ++ ((entry.1.2.map Capture.shownInMatch).getD "None")
  "Captures(\x7b" ++ ", ".intercalate ((names.zip captures).zipIdx.map one) ++ "\x7d)"

namespace MatcherType

/-- The number of accessors. -/
def groupCount (t : MatcherType) : Nat := t.methods.length

/-- A match as it is shown. -/
def shown (t : MatcherType) (m : Match) : String :=
  t.name ++ " \x7b captures: " ++ shownCaptures t.matcher.compiled.groups m.captures ++
    ", groups: [" ++ ", ".intercalate (m.groups.map MatchGroup.shown) ++ "] \x7d"

/-- The groups of a match by their methods. -/
def accessors (t : MatcherType) (m : Match) : List (String × MatchGroup) := t.methods.zip m.groups

/-- The group of a match with a method. -/
def group? (t : MatcherType) (m : Match) (method : String) : Option MatchGroup :=
  (t.accessors m).lookup method

/-- The text that the group with a method captured; empty if there is none. -/
def groupText (t : MatcherType) (m : Match) (method : String) : String :=
  ((t.group? m method).map MatchGroup.value).getD ""

end MatcherType

end CaptureTypes
