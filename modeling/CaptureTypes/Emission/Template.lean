/-
# Templates

What is generated is written once, as pieces.  A piece is a token, a group
of pieces, or the place where the path to the runtime goes; `fill` puts the
path there.  Nothing else in a template depends on the path.
-/
import CaptureTypes.Text.Quoted
import CaptureTypes.Text.Decimal
import CaptureTypes.Token.Basic

namespace CaptureTypes.Emission

/-- A piece of a template. -/
inductive Piece where
  | token (t : PlainToken)
  | runtime
  | group (delimiter : Delimiter) (inner : List Piece)
deriving Repr, Inhabited

namespace Piece

mutual

/-- The tokens of a piece with a path to the runtime. -/
def fill (path : List PlainToken) : Piece → List PlainToken
  | token t => [t]
  | runtime => path
  | group d inner => [Token.group () d (fillAll path inner)]

/-- The tokens of pieces with a path to the runtime. -/
def fillAll (path : List PlainToken) : List Piece → List PlainToken
  | [] => []
  | p :: ps => fill path p ++ fillAll path ps

end

/-- Pieces one after the other are filled one after the other. -/
theorem fillAll_append (path : List PlainToken) (ps qs : List Piece) :
    fillAll path (ps ++ qs) = fillAll path ps ++ fillAll path qs := by
  induction ps with
  | nil => rfl
  | cons p ps ih => simp [fillAll, ih]

end Piece

/-! ## Building pieces -/

/-- A word. -/
def word (s : String) : List Piece := [.token (.word s)]

/-- Words one after the other. -/
def words (ss : List String) : List Piece := ss.flatMap word

/-- An operator. -/
def sign (s : String) : List Piece := (PlainToken.signs s.toList).map .token

/-- A literal, as it is spelled. -/
def literal (s : String) : List Piece := [.token (.literal s)]

/-- A text as a literal. -/
def text (s : String) : List Piece := literal (Text.literal s)

/-- A number as a literal with its type. -/
def number (n : Nat) : List Piece := literal (String.ofList (Text.decimal n) ++ "usize")

/-- A truth value. -/
def truth (b : Bool) : List Piece := word (if b then "true" else "false")

/-- A lifetime. -/
def lifetime (name : String) : List Piece := (PlainToken.lifetime name).map .token

/-- Pieces in parentheses. -/
def parens (inner : List Piece) : List Piece := [.group .parenthesis inner]

/-- Pieces in brackets. -/
def brackets (inner : List Piece) : List Piece := [.group .bracket inner]

/-- Pieces in braces. -/
def braces (inner : List Piece) : List Piece := [.group .brace inner]

/-- Pieces in angle brackets. -/
def angles (inner : List Piece) : List Piece := sign "<" ++ inner ++ sign ">"

/-- A path under another one. -/
def under (ss : List String) : List Piece := ss.flatMap fun s => sign "::" ++ word s

/-- A path under the runtime. -/
def inRuntime (ss : List String) : List Piece := .runtime :: under ss

/-- Lists of pieces with a separator between them. -/
def separatedBy (separator : List Piece) : List (List Piece) → List Piece
  | [] => []
  | [p] => p
  | p :: ps => p ++ separator ++ separatedBy separator ps

end CaptureTypes.Emission
