/-
# Source text as tokens

A token is a word, a sign, a literal, or a group: the tokens between two
delimiters.  A sign is joint if the next sign belongs to it, so that `::`
is a joint colon and a colon that is not; the apostrophe of a lifetime is
joint with its name.

Tokens that were read carry the extent of source text from which they come,
tokens that are built carry nothing.  `plain` forgets the extents; `print`
depends on nothing else.
-/

namespace CaptureTypes

/-- A stretch of source text: lines from 1, columns from 0, the end not included. -/
structure Extent where
  line : Nat
  column : Nat
  endLine : Nat
  endColumn : Nat
deriving DecidableEq, Repr, Inhabited

namespace Extent

/-- The place at which nothing stands: the start of a text. -/
def nowhere : Extent := ⟨1, 0, 1, 0⟩

/-- The first character of an extent. -/
def opening (e : Extent) : Extent := ⟨e.line, e.column, e.line, e.column + 1⟩

/-- The last character of an extent that ends with a delimiter. -/
def closing (e : Extent) : Extent := ⟨e.endLine, e.endColumn - 1, e.endLine, e.endColumn⟩

/-- From the start of one extent to the end of another. -/
def through (e f : Extent) : Extent := ⟨e.line, e.column, f.endLine, f.endColumn⟩

end Extent

/-- What encloses a group. -/
inductive Delimiter where
  | parenthesis
  | bracket
  | brace
deriving DecidableEq, Repr, Inhabited

/-- A text between delimiters; inside braces there is a blank at both ends, or one in all if
nothing is between them. -/
def Delimiter.enclose (d : Delimiter) (inner : List Char) : List Char :=
  match d with
  | parenthesis => '(' :: inner ++ [')']
  | bracket => '[' :: inner ++ [']']
  | brace => ['\x7b', ' '] ++ inner ++ (if inner.isEmpty then [] else [' ']) ++ ['\x7d']

/-- A token, with a mark `σ` of where it comes from. -/
inductive Token (σ : Type) where
  | word (place : σ) (text : String)
  | sign (place : σ) (char : Char) (joint : Bool)
  | literal (place : σ) (text : String)
  | group (place : σ) (delimiter : Delimiter) (inner : List (Token σ))
deriving Repr, Inhabited, BEq

/-- A token that was read. -/
abbrev SourceToken := Token Extent

/-- A token that comes from nowhere. -/
abbrev PlainToken := Token Unit

namespace Token

/-- Where a token comes from. -/
def place {σ : Type} : Token σ → σ
  | word p _ => p
  | sign p _ _ => p
  | literal p _ => p
  | group p _ _ => p

/-- Where to point when a token is not the one expected: at a group's opening delimiter, at
all of any other token. -/
def front : SourceToken → Extent
  | group p _ _ => p.opening
  | t => t.place

mutual

/-- A token without its place. -/
def plain {σ : Type} : Token σ → PlainToken
  | word _ s => word () s
  | sign _ c joint => sign () c joint
  | literal _ s => literal () s
  | group _ d inner => group () d (plainAll inner)

/-- Tokens without their places. -/
def plainAll {σ : Type} : List (Token σ) → List PlainToken
  | [] => []
  | t :: ts => plain t :: plainAll ts

end

mutual

/-- The number of tokens in a token, itself included. -/
def size {σ : Type} : Token σ → Nat
  | word _ _ => 1
  | sign _ _ _ => 1
  | literal _ _ => 1
  | group _ _ inner => sizeAll inner + 1

/-- The number of tokens in a list of them. -/
def sizeAll {σ : Type} : List (Token σ) → Nat
  | [] => 0
  | t :: ts => size t + sizeAll ts

end

/-- Whether nothing may stand between a token and the next one. -/
def isJoint {σ : Type} : Token σ → Bool
  | sign _ _ joint => joint
  | _ => false

/-! ## Comparing tokens -/

section

variable {σ : Type} [DecidableEq σ]

mutual

/-- Whether two tokens are the same. -/
def decEq : (t u : Token σ) → Decidable (t = u)
  | word p s, word q r =>
    if h : p = q ∧ s = r then isTrue (by rw [h.1, h.2])
    else isFalse fun heq => by cases heq; exact h ⟨rfl, rfl⟩
  | sign p c i, sign q d j =>
    if h : p = q ∧ c = d ∧ i = j then isTrue (by rw [h.1, h.2.1, h.2.2])
    else isFalse fun heq => by cases heq; exact h ⟨rfl, rfl, rfl⟩
  | literal p s, literal q r =>
    if h : p = q ∧ s = r then isTrue (by rw [h.1, h.2])
    else isFalse fun heq => by cases heq; exact h ⟨rfl, rfl⟩
  | group p d ts, group q e us =>
    match decEqAll ts us with
    | isTrue hinner =>
      if h : p = q ∧ d = e then isTrue (by rw [hinner, h.1, h.2])
      else isFalse fun heq => by cases heq; exact h ⟨rfl, rfl⟩
    | isFalse hinner => isFalse fun heq => by cases heq; exact hinner rfl
  | word .., sign .. | word .., literal .. | word .., group ..
  | sign .., word .. | sign .., literal .. | sign .., group ..
  | literal .., word .. | literal .., sign .. | literal .., group ..
  | group .., word .. | group .., sign .. | group .., literal .. => isFalse nofun

/-- Whether two lists of tokens are the same. -/
def decEqAll : (ts us : List (Token σ)) → Decidable (ts = us)
  | [], [] => isTrue rfl
  | t :: ts, u :: us =>
    match decEq t u, decEqAll ts us with
    | isTrue ht, isTrue hts => isTrue (by rw [ht, hts])
    | isFalse ht, _ => isFalse fun heq => by cases heq; exact ht rfl
    | _, isFalse hts => isFalse fun heq => by cases heq; exact hts rfl
  | [], _ :: _ | _ :: _, [] => isFalse nofun

end

instance : DecidableEq (Token σ) := decEq

end

mutual

/-- A token as text. -/
def print {σ : Type} : Token σ → List Char
  | word _ s => s.toList
  | sign _ c _ => [c]
  | literal _ s => s.toList
  | group _ d inner => d.enclose (printAll true inner)

/-- Tokens as text, with a blank before each of them but the first one and those that belong to
the token before; `tight` says whether the blank is left out. -/
def printAll {σ : Type} (tight : Bool) : List (Token σ) → List Char
  | [] => []
  | t :: ts => (if tight then [] else [' ']) ++ print t ++ printAll (isJoint t) ts

end

/-- Tokens as text. -/
def render {σ : Type} (ts : List (Token σ)) : String := String.ofList (printAll true ts)

end Token

/-! ## Building tokens -/

namespace PlainToken

/-- A word. -/
def word (s : String) : PlainToken := Token.word () s

/-- A sign that stands alone. -/
def sign (c : Char) : PlainToken := Token.sign () c false

/-- A sign that belongs to the next token. -/
def joint (c : Char) : PlainToken := Token.sign () c true

/-- A literal. -/
def literal (s : String) : PlainToken := Token.literal () s

/-- The signs of an operator: all but the last one are joint. -/
def signs : List Char → List PlainToken
  | [] => []
  | [c] => [sign c]
  | c :: rest => joint c :: signs rest

/-- A lifetime. -/
def lifetime (name : String) : List PlainToken := [joint '\'', word name]

end PlainToken

end CaptureTypes
