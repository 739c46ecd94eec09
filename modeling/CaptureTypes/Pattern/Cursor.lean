/-
# Walking through a pattern

A cursor is the rest of a pattern and the place where it begins.  In the
verbose mode white space and comments between the signs of a pattern mean
nothing; `skip` passes over them, and `step` passes one sign and what
follows it.
-/
import CaptureTypes.Pattern.Fault
import CaptureTypes.Unicode.Property

namespace CaptureTypes.Pattern

/-- What is left to read, and where it begins. -/
structure Cursor where
  rest : List Char
  place : Place
deriving Repr, Inhabited

/-- How a pattern is read: whether blanks and comments are skipped, and whether octal
escapes are known. -/
structure Mode where
  verbose : Bool
  octal : Bool
deriving Repr, DecidableEq

/-- White space of any kind. -/
def isBlank (c : Char) : Bool := Unicode.Property.blank.contains c

namespace Cursor

/-- The start of a pattern. -/
def ofChars (cs : List Char) : Cursor := ⟨cs, .start⟩

/-- The next character. -/
def peek? (c : Cursor) : Option Char := c.rest.head?

/-- Whether nothing is left. -/
def atEnd (c : Cursor) : Bool := c.rest.isEmpty

/-- Whether the next character is the given one. -/
def isAt (c : Cursor) (x : Char) : Bool := c.rest.head? == some x

/-- The cursor after the next character. -/
def next (c : Cursor) : Cursor :=
  match c.rest with
  | [] => c
  | x :: rest => ⟨rest, c.place.after x⟩

/-- The span without characters here. -/
def here (c : Cursor) : Span := .point c.place

/-- The span of the next character. -/
def span (c : Cursor) : Span := ⟨c.place, c.next.place⟩

/-- The span from an earlier place up to here. -/
def since (c : Cursor) (start : Place) : Span := ⟨start, c.place⟩

/-- Passes over white space and comments. -/
def skipFrom (inComment : Bool) : List Char → Place → Cursor
  | [], p => ⟨[], p⟩
  | c :: rest, p =>
    if inComment then skipFrom (c ≠ '\n') rest (p.after c)
    else if isBlank c then skipFrom false rest (p.after c)
    else if c = '#' then skipFrom true rest (p.after c)
    else ⟨c :: rest, p⟩

/-- Passes over white space and comments in the verbose mode. -/
def skip (m : Mode) (c : Cursor) : Cursor :=
  if m.verbose then skipFrom false c.rest c.place else c

/-- Passes one character and what means nothing after it. -/
def step (m : Mode) (c : Cursor) : Cursor := c.next.skip m

/-- Passes over a given text, if it comes next. -/
def pass? (c : Cursor) : List Char → Option Cursor
  | [] => some c
  | x :: xs => if c.isAt x then c.next.pass? xs else none

/-- The next sign after the current character, seen through white space and the first mark
of a comment; if no sign follows, the next character of any kind. -/
def peekPast (m : Mode) (c : Cursor) : Option Char :=
  let after := c.rest.drop 1
  if m.verbose then
    let solid := after.filter fun x => !isBlank x
    let beyond := match solid with
      | '#' :: rest => rest
      | rest => rest
    match beyond with
    | x :: _ => some x
    | [] => after.head?
  else after.head?

/-- Reads characters that pass a test, stepping over what means nothing between them;
`fuel` bounds their number. -/
def takeSteps (m : Mode) (p : Char → Bool) : Nat → Cursor → List Char × Cursor
  | 0, c => ([], c)
  | fuel + 1, c =>
    match c.peek? with
    | some x =>
      if p x then
        let (xs, c') := takeSteps m p fuel (c.step m)
        (x :: xs, c')
      else ([], c)
    | none => ([], c)

/-- Reads all characters that pass a test, stepping over what means nothing between them. -/
def takeWhile (m : Mode) (p : Char → Bool) (c : Cursor) : List Char × Cursor :=
  takeSteps m p c.rest.length c

end Cursor

/-- A refusal. -/
def refuse {α : Type} (cause : Cause) (span : Span) : Except Fault α := .error ⟨cause, span⟩

end CaptureTypes.Pattern
