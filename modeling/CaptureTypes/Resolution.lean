/-
# Resolving a declaration

A declared pattern is compiled under its options, and every group of it
gets a description.
-/
import CaptureTypes.Failure
import CaptureTypes.Group
import CaptureTypes.Match.Basic
import CaptureTypes.Spec

namespace CaptureTypes

/-- A compiled pattern with its groups, group 0 included. -/
structure Resolved where
  compiled : Pattern.Compiled
  groups : List Group
deriving Repr, Inhabited

namespace Resolved

/-- The groups with an accessor: all but group 0. -/
def accessorGroups (r : Resolved) : List Group := r.groups.drop 1

/-- The matcher of a resolved declaration. -/
def matcher (r : Resolved) : Matcher := ⟨r.compiled, r.accessorGroups⟩

end Resolved

/-- The recipe of a declaration. -/
def Spec.recipe (s : Spec) : Pattern.Recipe := (Pattern.Recipe.of s.pattern).configure s.options

/-- Compiles the pattern of a declaration and describes its groups. -/
def Spec.resolve (s : Spec) : Except GenerateError Resolved :=
  match s.recipe.compile with
  | .error e => .error (.patternCompilation e)
  | .ok c => .ok ⟨c, Group.listFrom 0 c.groups⟩

end CaptureTypes
