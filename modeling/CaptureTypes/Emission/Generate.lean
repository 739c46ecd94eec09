/-
# Generating a declaration

The names of a resolved declaration are checked, the type first, then its
modules, then its accessors; if all are well, the items that declare the
matcher type are put into their modules and printed with the path to the
runtime.  The surroundings, who may see the type, the attributes it keeps
and that path, decide nothing about success.
-/
import CaptureTypes.Emission.Declaration
import CaptureTypes.Log
import CaptureTypes.Resolution

namespace CaptureTypes

/-- What a declaration is generated with: who may see the type, the attributes kept on it, and
the path to the runtime. -/
structure Surroundings where
  visibility : List PlainToken
  attributes : List PlainToken
  runtime : List PlainToken
deriving Repr, Inhabited

namespace Surroundings

/-- Everyone may see the type, it keeps no attributes, and the runtime is where it usually
is. -/
def standard : Surroundings where
  visibility := [.word "pub"]
  attributes := []
  runtime := PlainToken.signs [':', ':'] ++ [.word "typed_regex"]

end Surroundings

/-- The names of the modules in a path, or the first that is none. -/
def modulesOf : List String → Except GenerateError (List String)
  | [] => .ok []
  | segment :: rest =>
    match Token.name? segment with
    | none => .error (.invalidModulePath segment)
    | some name =>
      match modulesOf rest with
      | .error e => .error e
      | .ok names => .ok (name :: names)

/-- The names of a declaration once they are checked. -/
structure Names where
  typeName : String
  modules : List String
  accessors : List Emission.Accessor
deriving DecidableEq, Repr

namespace Spec

/-- Checks the names of a resolved declaration. -/
def namesWith (s : Spec) (r : Resolved) : Except GenerateError Names :=
  match Token.name? s.typeName with
  | none => .error (.invalidTypeName s.typeName)
  | some typeName =>
    match modulesOf s.modulePath with
    | .error e => .error e
    | .ok modules =>
      match Emission.accessorsOf r.accessorGroups with
      | .error e => .error e
      | .ok accessors => .ok ⟨typeName, modules, accessors⟩

/-- The items of a declaration with checked names. -/
def itemsWith (s : Spec) (names : Names) (around : Surroundings) : List Emission.Item :=
  Emission.Item.nest names.modules
    (Emission.declaration names.typeName s names.accessors around.attributes around.visibility)

/-- The tokens of a declaration with checked names. -/
def tokensWith (s : Spec) (names : Names) (around : Surroundings) : List PlainToken :=
  Emission.Piece.fillAll around.runtime (Emission.Item.allPieces (s.itemsWith names around))

/-- Resolves a declaration. -/
def resolveLogged (s : Spec) : Logged (Except GenerateError Resolved) :=
  match s.resolve with
  | .error e => .quiet (.error e)
  | .ok r => ⟨.ok r, [.resolved s.typeName r.accessorGroups.length]⟩

/-- Emits a resolved declaration. -/
def emit (s : Spec) (r : Resolved) (around : Surroundings) :
    Logged (Except GenerateError (List PlainToken)) :=
  match s.namesWith r with
  | .error e => .quiet (.error e)
  | .ok names =>
    ⟨.ok (s.tokensWith names around), [.emitted s.typeName names.accessors.length]⟩

/-- Resolves and emits a declaration. -/
def generateWith (s : Spec) (around : Surroundings) :
    Logged (Except GenerateError (List PlainToken)) :=
  s.resolveLogged.andThen fun
    | .error e => .quiet (.error e)
    | .ok r => s.emit r around

/-- Resolves and emits a declaration with standard surroundings. -/
def generate (s : Spec) : Logged (Except GenerateError (List PlainToken)) :=
  s.generateWith .standard

end Spec

end CaptureTypes
