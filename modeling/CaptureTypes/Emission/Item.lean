/-
# Items

What is declared in a file: structs, implementations and modules of them.
An implementation has members, constants and functions.  Types, values and
bodies are templates, and so is an item as a whole.
-/
import CaptureTypes.Emission.Template

namespace CaptureTypes.Emission

/-- What a member of an implementation is. -/
inductive Content where
  | constant (type value : List Piece)
  | function (parameters result body : List Piece)
deriving Repr, Inhabited

/-- A member of an implementation. -/
structure Member where
  attributes : List (List Piece)
  isPublic : Bool
  name : String
  content : Content
deriving Repr, Inhabited

/-- An item of a file; what stands before a struct, its attributes and its visibility, is given
from outside as far as `given` and `visibility` go. -/
inductive Item where
  | struct (given : List PlainToken) (attributes : List (List Piece))
      (visibility : List PlainToken) (name : String) (fields : List (String × List Piece))
  | implementation (attributes : List (List Piece)) (binder : List Piece)
      (trait : Option (List Piece)) (type : List Piece) (members : List Member)
  | submodule (name : String) (items : List Item)
deriving Repr, Inhabited

/-- An attribute. -/
def attributePieces (inner : List Piece) : List Piece := sign "#" ++ brackets inner

/-- The word that opens a declaration to all. -/
def publicPieces (isPublic : Bool) : List Piece := if isPublic then word "pub" else []

/-- A constant or a function after its name. -/
def Content.pieces (name : String) : Content → List Piece
  | constant type value =>
    words ["const", name] ++ sign ":" ++ type ++ sign "=" ++ value ++ sign ";"
  | function parameters result body =>
    words ["fn", name] ++ parens parameters ++ sign "->" ++ result ++ braces body

/-- A member as a template. -/
def Member.pieces (m : Member) : List Piece :=
  m.attributes.flatMap attributePieces ++ publicPieces m.isPublic ++ m.content.pieces m.name

/-- A field as a template. -/
def fieldPieces (field : String × List Piece) : List Piece :=
  word field.1 ++ sign ":" ++ field.2 ++ sign ","

namespace Item

mutual

/-- An item as a template. -/
def pieces : Item → List Piece
  | struct given attributes visibility name fields =>
    given.map .token ++ attributes.flatMap attributePieces ++ visibility.map .token ++
      words ["struct", name] ++ angles (lifetime "t") ++ braces (fields.flatMap fieldPieces)
  | implementation attributes binder trait type members =>
    attributes.flatMap attributePieces ++ word "impl" ++ binder ++
      (match trait with
        | some t => t ++ word "for"
        | none => []) ++
      type ++ braces (members.flatMap Member.pieces)
  | submodule name items => words ["pub", "mod", name] ++ braces (allPieces items)

/-- Items as a template. -/
def allPieces : List Item → List Piece
  | [] => []
  | i :: is => pieces i ++ allPieces is

end

/-- Items in modules, the outermost first. -/
def nest (modules : List String) (items : List Item) : List Item :=
  modules.foldr (fun name items => [submodule name items]) items

end Item

end CaptureTypes.Emission
