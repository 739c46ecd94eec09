/-
# Reading tokens

`Token.readAll` turns a source text into tokens, or answers with the place
where that fails: at an opening delimiter that is never closed, at a
closing one that closes nothing, or at what begins no token.  A mark of
byte order before the text is no part of it.

Groups that are still open are kept as frames, the innermost first, each
with the tokens before it.  Lists that grow hold the latest token first.
-/
import CaptureTypes.Text.Quoted
import CaptureTypes.Token.Basic
import CaptureTypes.Token.Blank
import CaptureTypes.Token.Literal

namespace CaptureTypes.Token

/-- A line and a column. -/
structure Position where
  line : Nat
  column : Nat
deriving DecidableEq, Repr, Inhabited

/-- The position after one more character. -/
def Position.step (p : Position) (c : Char) : Position :=
  if c = '\n' then ⟨p.line + 1, 0⟩ else ⟨p.line, p.column + 1⟩

/-- The extent between two positions. -/
def Position.upTo (p q : Position) : Extent := ⟨p.line, p.column, q.line, q.column⟩

/-- The rest of a source text and where it begins. -/
structure Source where
  position : Position
  rest : List Char
deriving DecidableEq, Repr, Inhabited

/-- What a source passes until only a given end of it is left. -/
def Source.passed (s : Source) (rest : List Char) : List Char :=
  s.rest.take (s.rest.length - rest.length)

/-- A source of which only a given end is left. -/
def Source.moveTo (s : Source) (rest : List Char) : Source :=
  ⟨(s.passed rest).foldl Position.step s.position, rest⟩

/-! ## Words -/

/-- What looks like the start of a literal; no word begins with it. -/
def literalStarts : List (List Char) :=
  [['r', '"'], ['r', '#', '"'], ['r', '#', '#'], ['b', '"'], ['b', '\''], ['b', 'r', '"'],
   ['b', 'r', '#'], ['c', '"'], ['c', 'r', '"'], ['c', 'r', '#']]

/-- The words that cannot be raw. -/
def neverRaw : List (List Char) :=
  [['_'], ['s', 'u', 'p', 'e', 'r'], ['s', 'e', 'l', 'f'], ['S', 'e', 'l', 'f'],
   ['c', 'r', 'a', 't', 'e']]

/-- The word at the start of a text, and the rest after it. -/
def plainWord? : List Char → Option (List Char × List Char)
  | c :: rest =>
    if beginsWord c then some (c :: rest.takeWhile continuesWord, rest.dropWhile continuesWord)
    else none
  | [] => none

/-- The word at the start of a text, which may be raw, and the rest after it. -/
def rawWord? (cs : List Char) : Option (List Char × List Char) :=
  match cs with
  | 'r' :: '#' :: rest => do
    let (name, rest) ← plainWord? rest
    if name ∈ neverRaw then none else some ('r' :: '#' :: name, rest)
  | cs => plainWord? cs

/-- The word at the start of a text that begins no literal, and the rest after it. -/
def word? (cs : List Char) : Option (List Char × List Char) :=
  if literalStarts.any (beginsWith · cs) then none else rawWord? cs

/-! ## Signs -/

/-- The sign at the start of a text, and the rest after it. A comment is no sign. -/
def anySign? (cs : List Char) : Option (Char × List Char) :=
  if beginsWith ['/', '/'] cs || beginsWith ['/', '*'] cs then none
  else
    match cs with
    | c :: rest => if c ∈ signs then some (c, rest) else none
    | [] => none

/-- Whether an apostrophe belongs to the name of a lifetime after it. -/
def beginsLifetime (rest : List Char) : Bool :=
  match rawWord? rest with
  | none => false
  | some (_, after) =>
    !(beginsWith ['\''] after || (beginsWith ['#'] after && !beginsWith ['r', '#'] rest))

/-- The sign at the start of a text, whether it is joint, and the rest after it. -/
def sign? (cs : List Char) : Option (Char × Bool × List Char) := do
  let (c, rest) ← anySign? cs
  if c = '\'' then
    if beginsLifetime rest then some (c, true, rest) else none
  else some (c, (anySign? rest).isSome, rest)

/-! ## Tokens -/

/-- The delimiter that a character opens. -/
def opens? (c : Char) : Option Delimiter :=
  if c = '(' then some .parenthesis
  else if c = '[' then some .bracket
  else if c = '\x7b' then some .brace
  else none

/-- The delimiter that a character closes. -/
def closes? (c : Char) : Option Delimiter :=
  if c = ')' then some .parenthesis
  else if c = ']' then some .bracket
  else if c = '\x7d' then some .brace
  else none

/-- The token that is no group at the start of a source, and the source after it. -/
def leaf? (s : Source) : Option (SourceToken × Source) :=
  match afterLiteral? s.rest with
  | some rest =>
    let after := s.moveTo rest
    some (.literal (s.position.upTo after.position) (String.ofList (s.passed rest)), after)
  | none =>
    match sign? s.rest with
    | some (c, joint, rest) =>
      let after := s.moveTo rest
      some (.sign (s.position.upTo after.position) c joint, after)
    | none =>
      (word? s.rest).map fun (text, rest) =>
        let after := s.moveTo rest
        (.word (s.position.upTo after.position) (String.ofList text), after)

/-- The tokens for which a document stands; they all have its extent. -/
def Document.tokens (d : Document) (e : Extent) : List SourceToken :=
  .sign e '#' false :: (if d.inner then [.sign e '!' false] else []) ++
    [.group e .bracket
      [.word e "doc", .sign e '=' false, .literal e (Text.literal (String.ofList d.text))]]

/-- A group that is still open: where it was opened, by what, and the tokens before it. -/
structure Frame where
  opened : Position
  delimiter : Delimiter
  before : List SourceToken
deriving Repr

/-- Reads tokens to the end of a source; `fuel` is more than the number of its characters. -/
def readFrom : Nat → List Frame → List SourceToken → Source → Except Extent (List SourceToken)
  | 0, _, _, s => .error (s.position.upTo s.position)
  | fuel + 1, frames, done, s =>
    let s := s.moveTo (afterBlanks s.rest)
    let failed (p : Position) : Except Extent (List SourceToken) := .error (p.upTo p)
    match document? s.rest with
    | some (d, rest) =>
      let after := s.moveTo rest
      readFrom fuel frames ((d.tokens (s.position.upTo after.position)).reverse ++ done) after
    | none =>
      match s.rest with
      | [] =>
        match frames with
        | [] => .ok done.reverse
        | frame :: _ => failed frame.opened
      | c :: rest =>
        match opens? c, closes? c with
        | some d, _ => readFrom fuel (⟨s.position, d, done⟩ :: frames) [] (s.moveTo rest)
        | none, some d =>
          match frames with
          | [] => failed s.position
          | frame :: frames =>
            if frame.delimiter = d then
              let after := s.moveTo rest
              let whole : SourceToken := .group (frame.opened.upTo after.position) d done.reverse
              readFrom fuel frames (whole :: frame.before) after
            else failed s.position
        | none, none =>
          match leaf? s with
          | some (t, after) => readFrom fuel frames (t :: done) after
          | none => failed s.position

/-- A text without the mark of byte order before it. -/
def withoutMark (cs : List Char) : List Char :=
  match cs with
  | '\ufeff' :: rest => rest
  | cs => cs

/-- The tokens of a source text, or where it goes wrong. -/
def readAll (text : String) : Except Extent (List SourceToken) :=
  let cs := withoutMark text.toList
  readFrom (cs.length + 1) [] [] ⟨⟨1, 0⟩, cs⟩

end CaptureTypes.Token
