/-
# Manifests

A manifest lists declared matchers in the data format, with the path to the
runtime.  Here stand the forms of options, of declarations and of whole
manifests.
-/
import CaptureTypes.Json.Form
import CaptureTypes.Spec

namespace CaptureTypes

/-- The path to the runtime that nobody names. -/
def standardRuntime : String := "::typed_regex"

/-- A toggle as a field of options. -/
def Toggle.field (t : Toggle) : Json.Field Options where
  name := t.name
  optional := true
  read := fun r => do
    let (value, r) ← r.truth
    .ok (fun o => o.set t value, r)

/-- The form of options. -/
def Options.form : Json.Form Options := ⟨"RegexOptions", Toggle.all.map Toggle.field, .standard⟩

namespace Spec

/-- The field of the name. -/
def nameField : Json.Field Spec where
  name := "name"
  optional := false
  read := fun r => do
    let (name, r) ← r.text
    .ok (fun s => { s with typeName := name }, r)

/-- The field of the pattern. -/
def patternField : Json.Field Spec where
  name := "pattern"
  optional := false
  read := fun r => do
    let (pattern, r) ← r.text
    .ok (fun s => { s with pattern := pattern }, r)

/-- The field of the options. -/
def optionsField : Json.Field Spec where
  name := "options"
  optional := true
  read := fun r => do
    let (options, r) ← Options.form.read r
    .ok (fun s => { s with options := options }, r)

/-- The field of the modules. -/
def moduleField : Json.Field Spec where
  name := "module"
  optional := true
  read := fun r => do
    let (path, r) ← Json.Reader.array Json.Reader.text r
    .ok (fun s => { s with modulePath := path }, r)

/-- The form of a declaration. -/
def form : Json.Form Spec :=
  ⟨"PatternSpec", [nameField, patternField, optionsField, moduleField], .of "" ""⟩

end Spec

/-- Declarations with the path to the runtime. -/
structure Manifest where
  runtime : String
  patterns : List Spec
deriving DecidableEq, Repr

namespace Manifest

/-- The field of the path to the runtime. -/
def runtimeField : Json.Field Manifest where
  name := "runtime"
  optional := true
  read := fun r => do
    let (runtime, r) ← r.text
    .ok (fun m => { m with runtime := runtime }, r)

/-- The field of the declarations. -/
def patternsField : Json.Field Manifest where
  name := "patterns"
  optional := false
  read := fun r => do
    let (patterns, r) ← Json.Reader.array Spec.form.read r
    .ok (fun m => { m with patterns := patterns }, r)

/-- The form of a manifest. -/
def form : Json.Form Manifest := ⟨"Manifest", [runtimeField, patternsField], ⟨standardRuntime, []⟩⟩

/-- A manifest as an object. -/
def toJson (m : Manifest) : Json :=
  .object [("runtime", .text m.runtime), ("patterns", .array (m.patterns.map Spec.toJson))]

end Manifest

end CaptureTypes
