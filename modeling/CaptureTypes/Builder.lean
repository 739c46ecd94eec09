/-
# Builders

A builder collects declarations and the path to the runtime, and generates
one source file from them.  Every declaration is generated on its own; the
file is written only if all of them succeed, and otherwise every failure is
reported.
-/
import CaptureTypes.Emission.Generate
import CaptureTypes.Files
import CaptureTypes.Grammar.Type
import CaptureTypes.Manifest

namespace CaptureTypes

/-- A declaration that failed, by the name of its type. -/
structure DeclarationFailure where
  typeName : String
  error : GenerateError
deriving DecidableEq, Repr

/-- Why a builder fails. -/
inductive BuildError where
  | declarations (failures : List DeclarationFailure)
  | generate (error : GenerateError)
  | file (path : String) (error : FileError)
  | manifest (fault : Json.Fault)
deriving DecidableEq, Repr

/-- The line for a failure in a list of them. -/
def DeclarationFailure.line (f : DeclarationFailure) : String :=
  "\n  " ++ f.typeName ++ ": " ++ f.error.message

/-- The words for an error of a builder. -/
def BuildError.message : BuildError → String
  | declarations failures =>
    toString failures.length ++ " declaration(s) failed to generate:" ++
      String.join (failures.map DeclarationFailure.line)
  | generate error => error.message
  | file path error => "i/o error on " ++ path ++ ": " ++ error.message
  | manifest fault => "invalid pattern manifest: " ++ fault.message

/-- Declarations and the path to the runtime. -/
structure Builder where
  specs : List Spec
  runtime : String
deriving DecidableEq, Repr

/-- What comes of one declaration. -/
abbrev Outcome := Except GenerateError (List PlainToken)

namespace Builder

/-- No declarations, and the runtime where it usually is. -/
def new : Builder := ⟨[], standardRuntime⟩

/-- The builder with one more declaration. -/
def pattern (b : Builder) (s : Spec) : Builder := { b with specs := b.specs ++ [s] }

/-- The builder with more declarations. -/
def patterns (b : Builder) (ss : List Spec) : Builder := { b with specs := b.specs ++ ss }

/-- The builder with another path to the runtime. -/
def runtimePath (b : Builder) (path : String) : Builder := { b with runtime := path }

/-- The builder that a manifest describes. -/
def ofManifest (m : Manifest) : Builder := (new.runtimePath m.runtime).patterns m.patterns

/-- The builder that the text of a manifest describes. -/
def fromManifest (text : String) : Except BuildError Builder :=
  match Manifest.form.parse text with
  | .ok m => .ok (ofManifest m)
  | .error fault => .error (.manifest fault)

/-- The builder that a manifest file describes. -/
def fromManifestFile (fs : Files) (path : String) : Except BuildError Builder :=
  match fs.readText path with
  | .ok text => fromManifest text
  | .error e => .error (.file path e)

/-- Generates every declaration on its own. -/
def generateAll (b : Builder) : Logged (Except BuildError (List Outcome)) :=
  match Grammar.path? b.runtime with
  | none => .quiet (.error (.generate (.invalidRuntimePath b.runtime)))
  | some path =>
    let around := { Surroundings.standard with runtime := path }
    (Logged.all (fun s => s.generateWith around) b.specs).map .ok

/-- The failures among declarations with what came of them. -/
def failures : List (Spec × Outcome) → List DeclarationFailure
  | [] => []
  | (s, .error e) :: rest => ⟨s.typeName, e⟩ :: failures rest
  | (_, .ok _) :: rest => failures rest

/-- The tokens of the declarations that succeeded. -/
def successes : List (Spec × Outcome) → List PlainToken
  | [] => []
  | (_, .ok ts) :: rest => ts ++ successes rest
  | (_, .error _) :: rest => successes rest

/-- The first line of a generated file. -/
def header : String := "// @generated by typed_regex_codegen. Do not edit.\n\n"

/-- A generated file. -/
def sourceText (ts : List PlainToken) : String := header ++ Token.render ts ++ "\n"

/-- The file, or all failures, from declarations with what came of them. -/
def collect (results : List (Spec × Outcome)) : Logged (Except BuildError String) :=
  let failed := failures results
  ⟨if failed.isEmpty then .ok (sourceText (successes results)) else .error (.declarations failed),
    failed.map fun f => .failed f.typeName f.error⟩

/-- Generates the file. -/
def generate (b : Builder) : Logged (Except BuildError String) :=
  b.generateAll.andThen fun
    | .error e => .quiet (.error e)
    | .ok outcomes => collect (b.specs.zip outcomes)

/-- Generates the file and writes it. -/
def writeTo (b : Builder) (fs : Files) (path : String) : Logged (Except BuildError Files) :=
  b.generate.andThen fun
    | .error e => .quiet (.error e)
    | .ok text =>
      match fs.writeText path text with
      | .error e => .quiet (.error (.file path e))
      | .ok fs => ⟨.ok fs, [.wrote path b.specs.length]⟩

end Builder

end CaptureTypes
