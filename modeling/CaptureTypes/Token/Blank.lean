/-
# What stands between tokens

Blanks and comments separate tokens and are skipped.  A comment that begins
with a third slash, a second star or an exclamation mark is a document: it
is no blank, but stands for tokens of its own.  Four slashes, three stars
and the empty comment of blocks are ordinary comments again.

All functions here work on the rest of a text and answer with what is left
of it.
-/
import CaptureTypes.Token.Character

namespace CaptureTypes.Token

/-- The characters up to the end of the line, and the rest from there on. Of the two characters
that may end a line the first one is passed. -/
def untilLineEnd : List Char → List Char × List Char
  | [] => ([], [])
  | '\n' :: rest => ([], '\n' :: rest)
  | '\r' :: '\n' :: rest => ([], '\n' :: rest)
  | c :: rest =>
    let (line, rest) := untilLineEnd rest
    (c :: line, rest)

/-- The inside of a block comment that is `depth` comments deep, up to its end, and the rest
after it. Comments nest. -/
def untilBlockEnd : Nat → List Char → Option (List Char × List Char)
  | _, [] => none
  | depth, '/' :: '*' :: rest => do
    let (inside, rest) ← untilBlockEnd (depth + 1) rest
    some ('/' :: '*' :: inside, rest)
  | 0, '*' :: '/' :: rest => some ([], rest)
  | depth + 1, '*' :: '/' :: rest => do
    let (inside, rest) ← untilBlockEnd depth rest
    some ('*' :: '/' :: inside, rest)
  | depth, c :: rest => do
    let (inside, rest) ← untilBlockEnd depth rest
    some (c :: inside, rest)

/-- A comment that documents what follows it or, if it is `inner`, what encloses it. -/
structure Document where
  text : List Char
  inner : Bool
deriving DecidableEq, Repr

/-- Whether every return in a text belongs to the end of a line. -/
def hasPairedReturns : List Char → Bool
  | [] => true
  | '\r' :: '\n' :: rest => hasPairedReturns rest
  | c :: rest => c != '\r' && hasPairedReturns rest

/-- The document at the start of a text, and the rest after it, whatever returns it holds. -/
def anyDocument? : List Char → Option (Document × List Char)
  | '/' :: '/' :: '!' :: rest =>
    let (line, rest) := untilLineEnd rest
    some (⟨line, true⟩, rest)
  | '/' :: '/' :: '/' :: rest =>
    if beginsWith ['/'] rest then none
    else
      let (line, rest) := untilLineEnd rest
      some (⟨line, false⟩, rest)
  | '/' :: '*' :: '!' :: rest => do
    let (inside, rest) ← untilBlockEnd 0 rest
    some (⟨inside, true⟩, rest)
  | '/' :: '*' :: '*' :: rest =>
    if beginsWith ['*'] rest then none
    else do
      let (inside, rest) ← untilBlockEnd 0 rest
      some (⟨inside, false⟩, rest)
  | _ => none

/-- The document at the start of a text, and the rest after it. -/
def document? (cs : List Char) : Option (Document × List Char) := do
  let (d, rest) ← anyDocument? cs
  if hasPairedReturns d.text then some (d, rest) else none

/-- The rest of a text after the comment at its start, if there is one that is no document. -/
def afterComment? : List Char → Option (List Char)
  | '/' :: '/' :: rest =>
    if beginsWith ['!'] rest || (beginsWith ['/'] rest && !beginsWith ['/', '/'] rest) then none
    else some (untilLineEnd rest).2
  | '/' :: '*' :: rest =>
    if beginsWith ['*', '/'] rest then some (rest.drop 2)
    else if beginsWith ['!'] rest || (beginsWith ['*'] rest && !beginsWith ['*', '*'] rest) then
      none
    else (untilBlockEnd 0 rest).map Prod.snd
  | _ => none

/-- A text without a number of blanks and comments at its start. -/
def skipBlanks : Nat → List Char → List Char
  | 0, cs => cs
  | fuel + 1, cs =>
    match afterComment? cs with
    | some rest => skipBlanks fuel rest
    | none =>
      match cs with
      | c :: rest => if isBlank c then skipBlanks fuel rest else cs
      | [] => []

/-- A text without the blanks and comments at its start, of which there are no more than
characters. -/
def afterBlanks (cs : List Char) : List Char := skipBlanks cs.length cs

end CaptureTypes.Token
