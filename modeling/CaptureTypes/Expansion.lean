/-
# Expanding the attribute

The attribute turns a placeholder into a matcher type with the same name,
visibility and attributes.  The placeholder has to be a unit struct without
generics; what goes wrong in generating is reported at the pattern.
-/
import CaptureTypes.Emission.Generate
import CaptureTypes.Grammar.Arguments
import CaptureTypes.Grammar.Placeholder

namespace CaptureTypes

/-- The parts of an attributed placeholder, in the order in which they are dealt with. -/
inductive Stage where
  | arguments
  | placeholder
  | expansion
deriving DecidableEq, Repr

/-- Why an attributed placeholder is not expanded. -/
structure Rejection where
  stage : Stage
  complaint : Grammar.Complaint
deriving DecidableEq, Repr

namespace Grammar

/-- Why a struct is no fit placeholder, if it is none. -/
def Placeholder.objection? (p : Placeholder) : Option Complaint :=
  match p.fields.extent? with
  | some e => some ⟨.notUnit, e⟩
  | none =>
    if p.parameters.isSome || p.hasWhere then
      some ⟨.declaresGenerics, p.parameters.getD .nowhere⟩
    else none

/-- The declaration for which an attributed placeholder stands. -/
def Arguments.spec (a : Arguments) (p : Placeholder) : Spec :=
  (Spec.of p.name a.pattern).withOptions a.options

/-- What the declaration is generated with. -/
def Placeholder.surroundings (p : Placeholder) : Surroundings :=
  { Surroundings.standard with visibility := p.visibility, attributes := p.attributes }

/-- Expands an attributed placeholder. -/
def Arguments.expand (a : Arguments) (p : Placeholder) :
    Logged (Except Complaint (List PlainToken)) :=
  match p.objection? with
  | some c => .quiet (.error c)
  | none =>
    ((a.spec p).generateWith p.surroundings).map fun
      | .ok tokens => .ok tokens
      | .error e => .error ⟨.generation e, a.extent⟩

end Grammar

/-- Reads and expands an attributed placeholder, given the texts of the arguments and of the
struct. -/
def expand (arguments item : String) : Logged (Except Rejection (List PlainToken)) :=
  match Grammar.arguments? arguments with
  | .error c => .quiet (.error ⟨.arguments, c⟩)
  | .ok a =>
    match Grammar.placeholder? item with
    | .error c => .quiet (.error ⟨.placeholder, c⟩)
    | .ok p =>
      (a.expand p).map fun
        | .ok tokens => .ok tokens
        | .error c => .error ⟨.expansion, c⟩

end CaptureTypes
