/-
# Changing options step by step

Options are changed by toggles, by names, or all at once from a text in the
data format; they are asked what they hold and how a pattern matches under
them.  A name that no toggle has and a text that cannot be read change
nothing.
-/
import CaptureTypes.Failure
import CaptureTypes.Manifest

namespace CaptureTypes

/-- One step with options. -/
inductive OptionStep where
  | reset
  | write (toggle : Toggle) (value : Bool)
  | writeNamed (name : String) (value : Bool)
  | read (text : String)
  | matchWith (pattern text : String)
  | names
  | isStandard
deriving Repr

/-- What a step answers. -/
inductive OptionAnswer where
  | done
  | truth (b : Bool)
  | names (ns : List String)
  | unreadable (fault : Json.Fault)
  | refused (error : GenerateError)
deriving Repr

namespace Options

/-- Whether a pattern matches a text under options. -/
def matchesWith (o : Options) (pattern text : String) : Except GenerateError Bool :=
  match ((Pattern.Recipe.of pattern).configure o).compile with
  | .error e => .error (.patternCompilation e)
  | .ok c => .ok (c.matchesIn text.toList)

/-- Takes one step. -/
def step (o : Options) : OptionStep → OptionAnswer × Options
  | .reset => (.done, standard)
  | .write t value => (.done, o.set t value)
  | .writeNamed name value =>
    match o.setNamed? name value with
    | some o => (.truth true, o)
    | none => (.truth false, o)
  | .read text =>
    match form.parse text with
    | .ok o => (.done, o)
    | .error fault => (.unreadable fault, o)
  | .matchWith pattern text =>
    match o.matchesWith pattern text with
    | .ok b => (.truth b, o)
    | .error e => (.refused e, o)
  | .names => (.names Toggle.names, o)
  | .isStandard => (.truth (decide (o = standard)), o)

/-- Takes steps one after the other; each answer comes with the options after it. -/
def run (o : Options) : List OptionStep → List (OptionAnswer × Options)
  | [] => []
  | s :: rest =>
    let (answer, o) := o.step s
    (answer, o) :: run o rest

end Options

end CaptureTypes
