/-
# Documents of what is generated

The document of a matcher type shows the pattern in a block of code.  The
marks around the block are one longer than the longest run of such marks in
the pattern, so that no pattern can close it.
-/
import CaptureTypes.Group
import CaptureTypes.Spec

namespace CaptureTypes.Emission

/-- The longest run of backticks in a text; `run` of them come before it, and the longest run
so far is `longest`. -/
def longestRun (longest run : Nat) : List Char → Nat
  | [] => longest
  | c :: rest =>
    if c = '`' then longestRun (max longest (run + 1)) (run + 1) rest
    else longestRun longest 0 rest

/-- The marks around a block of code that holds a text. -/
def codeFence (text : List Char) : List Char := List.replicate (max (longestRun 0 0 text + 1) 3) '`'

/-- The document of a matcher type, as characters. -/
def typeDocumentChars (s : Spec) : List Char :=
  let fence := codeFence s.pattern.toList
  " Typed matches of the regular expression\n\n".toList ++ fence ++ "text\n".toList ++
    s.pattern.toList ++ '\n' :: fence ++ "\n\n Options: ".toList ++ s.options.describeAll.toList

/-- The document of a matcher type. -/
def typeDocument (s : Spec) : String := String.ofList (typeDocumentChars s)

/-- The document of an accessor. -/
def accessorDocument (g : Group) : String :=
  if g.named then
    " The capture group `" ++ g.rawName ++ "` at index " ++ toString g.index ++ "."
  else " The unnamed capture group at index " ++ toString g.index ++ "."

end CaptureTypes.Emission
