/-
# Spacing of signs

Tokens that are read without looking into them are printed with the blanks
of a reader who knows the operators: signs that make up an operator stay
together, all others stand alone.
-/
import CaptureTypes.Token.Basic

namespace CaptureTypes.Grammar

/-- The operators of several signs, the longest first. -/
def operators : List (List Char) :=
  [['<', '<', '='], ['>', '>', '='], ['.', '.', '.'], ['.', '.', '='], [':', ':'], ['-', '>'],
   ['=', '>'], ['=', '='], ['!', '='], ['<', '='], ['>', '='], ['&', '&'], ['|', '|'], ['+', '='],
   ['-', '='], ['*', '='], ['/', '='], ['%', '='], ['^', '='], ['&', '='], ['|', '='], ['<', '<'],
   ['>', '>'], ['.', '.']]

/-- Whether the signs of an operator are at the front. -/
def hasSigns {σ : Type} : List Char → List (Token σ) → Bool
  | [], _ => true
  | [c], .sign _ d _ :: _ => c == d
  | c :: cs, .sign _ d joint :: ts => c == d && joint && hasSigns cs ts
  | _ :: _, _ => false

/-- The number of signs in the operator at the front. -/
def operatorLength {σ : Type} (ts : List (Token σ)) : Nat :=
  match operators.find? (hasSigns · ts) with
  | some op => op.length
  | none => 1

mutual

/-- A token with the usual spacing inside. -/
def respace {σ : Type} : Token σ → PlainToken
  | .word _ s => .word s
  | .sign _ c joint => Token.sign () c joint
  | .literal _ s => .literal s
  | .group _ d inner => .group () d (respaceAll 0 inner)

/-- Tokens with the usual spacing; `left` signs of an operator are still to come. -/
def respaceAll {σ : Type} (left : Nat) : List (Token σ) → List PlainToken
  | [] => []
  | .sign _ '\'' _ :: ts => .joint '\'' :: respaceAll 0 ts
  | .sign p c joint :: ts =>
    let n := if left = 0 then operatorLength (.sign p c joint :: ts) else left
    Token.sign () c (1 < n) :: respaceAll (n - 1) ts
  | t :: ts => respace t :: respaceAll 0 ts

end

end CaptureTypes.Grammar
