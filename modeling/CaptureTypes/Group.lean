/-
# Capture groups and their accessors

Every group of a pattern gets an accessor, a method that answers with what
the group captured.  The name of the method is the legalized name of the
group: a number gets the word "Group" before it, any other name its first
character in upper case.
-/
import CaptureTypes.Json.Value
import CaptureTypes.Text.Uppercase

namespace CaptureTypes

/-- The word before the number of a group without a name. -/
def numberedGroupWord : List Char := ['G', 'r', 'o', 'u', 'p']

/-- A name with its first character in upper case, or a number with a word before it. -/
def legalizeChars : List Char → List Char
  | [] => []
  | c :: rest =>
    if (c :: rest).all Char.isDigit then numberedGroupWord ++ c :: rest
    else Text.Uppercase.upper c ++ rest

/-- The name of the accessor of a group with a name. -/
def legalize (rawName : String) : String := String.ofList (legalizeChars rawName.toList)

/-- A group of a pattern. The raw name is the one given in the pattern, or else the number. -/
structure Group where
  index : Nat
  rawName : String
  named : Bool
  identifier : String
deriving DecidableEq, Repr, Inhabited

namespace Group

/-- The group with a number and a name, if the pattern gives one. -/
def of (index : Nat) (name : Option String) : Group :=
  let rawName := name.getD (String.ofList (Text.decimal index))
  ⟨index, rawName, name.isSome, legalize rawName⟩

/-- Groups from a number on, by their names. -/
def listFrom (index : Nat) : List (Option String) → List Group
  | [] => []
  | name :: rest => of index name :: listFrom (index + 1) rest

/-- A group as an object. -/
def toJson (g : Group) : Json :=
  .object [("index", .number g.index), ("raw_name", .text g.rawName), ("named", .bool g.named),
    ("identifier", .text g.identifier)]

end Group

end CaptureTypes
