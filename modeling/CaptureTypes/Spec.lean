/-
# Declared matchers

A `Spec` says all that is needed about one matcher type: its name, its
pattern, the options of the pattern, and the modules in which the type
stands, the outermost first.
-/
import CaptureTypes.Json.Value
import CaptureTypes.Options
import CaptureTypes.Unicode.Property

namespace CaptureTypes

/-- One declared matcher type. -/
structure Spec where
  typeName : String
  pattern : String
  options : Options
  modulePath : List String
deriving DecidableEq, Repr, Inhabited

/-! ## Paths of modules -/

/-- The pieces of a text between double colons; `now` holds the piece being read, the latest
character first. -/
def splitPath (now : List Char) : List Char → List (List Char)
  | [] => [now.reverse]
  | ':' :: ':' :: rest => now.reverse :: splitPath [] rest
  | c :: rest => splitPath (c :: now) rest

/-- Whether a character is white space of any kind. -/
def isSpace (c : Char) : Bool := Unicode.Property.blank.contains c

/-- A text without the white space around it. -/
def trim (cs : List Char) : List Char :=
  ((cs.dropWhile isSpace).reverse.dropWhile isSpace).reverse

/-- The names of the modules in a path: the pieces between double colons, without the white
space around them, as far as anything is left of them. -/
def moduleNames (path : String) : List String :=
  (((splitPath [] path.toList).map trim).filter fun piece => !piece.isEmpty).map String.ofList

namespace Spec

/-- A matcher with standard options, in no module. -/
def of (typeName pattern : String) : Spec := ⟨typeName, pattern, .standard, []⟩

/-- The matcher under other options. -/
def withOptions (s : Spec) (options : Options) : Spec := { s with options := options }

/-- The matcher in the modules of a path. -/
def inModule (s : Spec) (path : String) : Spec := { s with modulePath := moduleNames path }

end Spec

/-! ## Data format -/

/-- Options as an object, every toggle with its value. -/
def Options.toJson (o : Options) : Json :=
  .object (Toggle.all.map fun t => (t.name, .bool (o.get t)))

/-- A matcher as an object. -/
def Spec.toJson (s : Spec) : Json :=
  .object [("name", .text s.typeName), ("pattern", .text s.pattern),
    ("options", s.options.toJson), ("module", .array (s.modulePath.map .text))]

end CaptureTypes
