/-
# Accessors

Every group but group 0 gets a method.  The identifiers of the groups, in
order, have to be names, to differ from the constants of a matcher type,
and to differ from each other; the first group that fails says why nothing
is generated.
-/
import CaptureTypes.Failure
import CaptureTypes.Group
import CaptureTypes.Token.Name

namespace CaptureTypes.Emission

/-- The method of a group. -/
structure Accessor where
  method : String
  group : Group
deriving DecidableEq, Repr, Inhabited

/-- The constants of every matcher type. -/
def reservedNames : List String := ["PATTERN", "GROUP_COUNT"]

/-- The method of one group, given the identifiers of the groups before it with their numbers. -/
def accessorOf (seen : List (String × Nat)) (g : Group) : Except GenerateError Accessor :=
  match Token.name? g.identifier with
  | none => .error (.invalidAccessor g.index g.rawName g.identifier)
  | some method =>
    if g.identifier ∈ reservedNames then .error (.reservedAccessor g.index g.identifier)
    else
      match seen.lookup g.identifier with
      | some first => .error (.duplicateAccessor g.identifier first g.index)
      | none => .ok ⟨method, g⟩

/-- The methods of groups that come after others. -/
def accessorsAfter (seen : List (String × Nat)) : List Group → Except GenerateError (List Accessor)
  | [] => .ok []
  | g :: gs =>
    match accessorOf seen g with
    | .error e => .error e
    | .ok a =>
      match accessorsAfter ((g.identifier, g.index) :: seen) gs with
      | .error e => .error e
      | .ok rest => .ok (a :: rest)

/-- The methods of groups. -/
def accessorsOf (gs : List Group) : Except GenerateError (List Accessor) := accessorsAfter [] gs

end CaptureTypes.Emission
