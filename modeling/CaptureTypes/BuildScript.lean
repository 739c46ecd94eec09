/-
# The build script

A build script generates matchers from a manifest and one more declaration
of its own, and writes them to a file in the folder for what is built.
Where that folder is comes from outside; if it is not given, the script
fails before it looks at the manifest.
-/
import CaptureTypes.Builder
import CaptureTypes.Example.Matchers

namespace CaptureTypes

/-- Why the build script fails. -/
inductive ScriptError where
  | noFolder
  | build (error : BuildError)
deriving DecidableEq, Repr

/-- The words for an error of the build script. -/
def ScriptError.message : ScriptError → String
  | noFolder => "environment variable not found"
  | build error => error.message

namespace BuildScript

/-- The manifest that the script reads. -/
def manifestPath : String := "patterns.json"

/-- The file that the script writes in a folder. -/
def outputPath (folder : String) : String := joinPath folder "patterns.rs"

/-- What the script prints: when it has to run again. -/
def printed : String := "cargo:rerun-if-changed=" ++ manifestPath ++ "\n"

/-- Runs the script. -/
def run (fs : Files) (folder : Option String) : Logged (Except ScriptError Files) :=
  match folder with
  | none => .quiet (.error .noFolder)
  | some folder =>
    match Builder.fromManifestFile fs manifestPath with
    | .error e => .quiet (.error (.build e))
    | .ok b =>
      ((b.pattern Example.keyValue).writeTo fs (outputPath folder)).map fun
        | .ok fs => .ok fs
        | .error e => .error (.build e)

/-- The file that the script wrote, as far as it can be read. -/
def output (fs : Files) (folder : Option String) : Option String := do
  (fs.readText (outputPath (← folder))).toOption

end BuildScript

end CaptureTypes
