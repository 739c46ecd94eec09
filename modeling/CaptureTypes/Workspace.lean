/-
# Work with a builder

A run of steps on one builder, with the files around it.  A step that fails
leaves both as they were.
-/
import CaptureTypes.Builder

namespace CaptureTypes

/-- A step of work; the last three touch files without the builder. -/
inductive BuildStep where
  | reset
  | pattern (s : Spec)
  | patterns (ss : List Spec)
  | runtimePath (path : String)
  | specs
  | generate
  | generateAll
  | fromManifest (text : String)
  | fromManifestFile (path : String)
  | writeTo (path : String)
  | read (path : String)
  | write (path : String) (content : ByteArray)
  | makeFolder (path : String)

/-- What a step that succeeds answers. -/
inductive BuildAnswer where
  | done
  | specs (ss : List Spec)
  | source (text : String)
  | outcomes (os : List Outcome)
  | content (text : Option String)
deriving Repr

/-- A builder with the files around it. -/
structure Workspace where
  builder : Builder
  files : Files

namespace Workspace

/-- A new builder without files. -/
def start : Workspace := ⟨.new, .empty⟩

/-- The workspace with another builder, whose declarations are the answer. -/
def replaceBuilder (w : Workspace) :
    Except BuildError Builder → Logged (Except BuildError BuildAnswer) × Workspace
  | .ok b => (.quiet (.ok (.specs b.specs)), { w with builder := b })
  | .error e => (.quiet (.error e), w)

/-- Takes a step. -/
def step (w : Workspace) : BuildStep → Logged (Except BuildError BuildAnswer) × Workspace
  | .reset => (.quiet (.ok .done), { w with builder := .new })
  | .pattern s => (.quiet (.ok .done), { w with builder := w.builder.pattern s })
  | .patterns ss => (.quiet (.ok .done), { w with builder := w.builder.patterns ss })
  | .runtimePath path => (.quiet (.ok .done), { w with builder := w.builder.runtimePath path })
  | .specs => (.quiet (.ok (.specs w.builder.specs)), w)
  | .generate => (w.builder.generate.map fun r => r.map .source, w)
  | .generateAll => (w.builder.generateAll.map fun r => r.map .outcomes, w)
  | .fromManifest text => w.replaceBuilder (Builder.fromManifest text)
  | .fromManifestFile path => w.replaceBuilder (Builder.fromManifestFile w.files path)
  | .writeTo path =>
    let l := w.builder.writeTo w.files path
    match l.answer with
    | .ok fs => (⟨.ok .done, l.events⟩, { w with files := fs })
    | .error e => (⟨.error e, l.events⟩, w)
  | .read path => (.quiet (.ok (.content (w.files.readText path).toOption)), w)
  | .write path content =>
    (.quiet (.ok .done), { w with files := ((w.files.writeBytes path content).toOption).getD w.files })
  | .makeFolder path => (.quiet (.ok .done), { w with files := w.files.makeFolder path })

/-- Takes steps one after the other. -/
def run (w : Workspace) : List BuildStep → List (Logged (Except BuildError BuildAnswer))
  | [] => []
  | s :: rest =>
    let (answer, w) := w.step s
    answer :: run w rest

end Workspace

end CaptureTypes
