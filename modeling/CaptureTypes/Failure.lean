/-
# Why a declaration fails

A declaration fails for its pattern, for a name, or for the path to the
runtime.  `GenerateError` holds the cause and what it is about; the words
are in `message`.
-/
import CaptureTypes.Pattern.Compiled

namespace CaptureTypes

/-- Why nothing is generated for one declaration. Groups are given by number. -/
inductive GenerateError where
  | patternCompilation (error : Pattern.CompileError)
  | duplicateAccessor (identifier : String) (first second : Nat)
  | invalidAccessor (index : Nat) (rawName identifier : String)
  | reservedAccessor (index : Nat) (identifier : String)
  | invalidTypeName (name : String)
  | invalidModulePath (segment : String)
  | invalidRuntimePath (path : String)
deriving DecidableEq, Repr

/-- The words for an error. -/
def GenerateError.message : GenerateError → String
  | patternCompilation error => "pattern failed to compile: " ++ error.message
  | duplicateAccessor identifier first second =>
    "capture groups " ++ toString first ++ " and " ++ toString second ++ " both map to accessor `" ++
      identifier ++ "`; rename one of them"
  | invalidAccessor index rawName identifier =>
    "capture group " ++ toString index ++ " (`" ++ rawName ++ "`) legalizes to `" ++ identifier ++
      "`, which is not a valid Rust identifier"
  | reservedAccessor index identifier =>
    "capture group " ++ toString index ++ " legalizes to `" ++ identifier ++
      "`, which is reserved by the generated type"
  | invalidTypeName name => "`" ++ name ++ "` is not a valid type name"
  | invalidModulePath segment => "`" ++ segment ++ "` is not a valid module name"
  | invalidRuntimePath path => "`" ++ path ++ "` is not a valid runtime crate path"

end CaptureTypes
