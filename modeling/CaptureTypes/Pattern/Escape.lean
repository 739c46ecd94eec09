/-
# Signs with a backslash

A backslash makes a literal of the sign after it, or one of a few letters
an assertion, a class or a character given by number.  The reader answers
with a tree without parts.
-/
import CaptureTypes.Pattern.Cursor
import CaptureTypes.Pattern.Tree

namespace CaptureTypes.Pattern

/-- The characters that mean something of their own in a pattern. -/
def isMeta (c : Char) : Bool :=
  ['\\', '.', '+', '*', '?', '(', ')', '|', '[', ']', '\x7b', '\x7d', '^', '$', '#', '&', '-',
    '~'].contains c

/-- The characters that a backslash leaves as they are. -/
def isEscapable (c : Char) : Bool :=
  isMeta c || (c.toNat < 0x80 && !c.isAlphanum && c != '<' && c != '>')

/-- Whether a character is a hexadecimal digit. -/
def isHexDigit (c : Char) : Bool :=
  c.isDigit || ('a' ≤ c && c ≤ 'f') || ('A' ≤ c && c ≤ 'F')

/-- The value of a hexadecimal digit. -/
def hexValue (c : Char) : Nat :=
  if c.isDigit then c.toNat - '0'.toNat
  else if 'a' ≤ c then c.toNat - 'a'.toNat + 10
  else c.toNat - 'A'.toNat + 10

/-- The number that digits write in a base. -/
def numberOf (base : Nat) (digits : List Char) : Nat :=
  digits.foldl (fun n d => n * base + hexValue d) 0

/-- The character with a code point, if it is one. -/
def charOf? (n : Nat) : Option Char :=
  if h : n.isValidChar then some (Char.ofNatAux n h) else none

/-! ## Characters by number -/

/-- Reads exactly `count` more hexadecimal digits, the first one without a step before it. -/
def readHexDigits (m : Mode) : Nat → Cursor → Except Fault (List Char × Cursor)
  | 0, c => .ok ([], c)
  | count + 1, c =>
    match c.peek? with
    | none => refuse .escapeEnd c.here
    | some x =>
      if isHexDigit x then do
        let (xs, c') ← readHexDigits m count (c.step m)
        .ok (x :: xs, c')
      else refuse .hexDigit c.span

/-- The number of digits that follow each of the three letters. -/
def hexWidth (letter : Char) : Nat :=
  if letter = 'x' then 2 else if letter = 'u' then 4 else 8

/-- Reads a character given by hexadecimal digits; the cursor stands at the letter, `start`
is the place of the backslash. -/
def readHex (m : Mode) (start : Place) (letter : Char) (c : Cursor) :
    Except Fault (Tree × Cursor) := do
  let first := c.step m
  if first.atEnd then refuse .escapeEnd first.here
  else if first.isAt '\x7b' then
    let inside := first.next.place
    let (digits, stop) := (first.step m).takeWhile m isHexDigit
    match stop.peek? with
    | none => refuse .escapeEnd (stop.since first.place)
    | some x =>
      if x ≠ '\x7d' then refuse .hexDigit stop.span
      else
        let after := stop.step m
        if digits.isEmpty then refuse .hexEmpty (after.since first.place)
        else
          match charOf? (numberOf 16 digits) with
          | none => refuse .hexInvalid (stop.since inside)
          | some ch => .ok (.literal ⟨after.since start, ch, false⟩, after)
  else
    let (digits, after) ← readHexDigits m (hexWidth letter) first
    match charOf? (numberOf 16 digits) with
    | none => refuse .hexInvalid (after.since first.place)
    | some ch => .ok (.literal ⟨after.since start, ch, letter = 'x'⟩, after)

/-- Whether a character is an octal digit. -/
def isOctal (c : Char) : Bool := '0' ≤ c && c ≤ '7'

/-- Reads a character given by one to three octal digits. -/
def readOctal (start : Place) (c : Cursor) : Tree × Cursor :=
  let digits := (c.rest.take 3).takeWhile isOctal
  let after := digits.foldl (fun (c : Cursor) _ => c.next) c
  (.literal ⟨after.since start, Char.ofNat (numberOf 8 digits), false⟩, after)

/-! ## Properties -/

/-- Splits a text at the first occurrence of a mark. -/
def splitAtMark (mark : List Char) : List Char → Option (List Char × List Char)
  | [] => none
  | c :: rest =>
    if mark.isPrefixOf (c :: rest) then some ([], (c :: rest).drop mark.length)
    else (splitAtMark mark rest).map fun (a, b) => (c :: a, b)

/-- What the text between the braces of a property class asks for. -/
def Query.ofText (cs : List Char) : Query :=
  match splitAtMark ['!', '='] cs with
  | some (p, v) => .value true (String.ofList p) (String.ofList v)
  | none =>
    match splitAtMark [':'] cs with
    | some (p, v) => .value false (String.ofList p) (String.ofList v)
    | none =>
      match splitAtMark ['='] cs with
      | some (p, v) => .value false (String.ofList p) (String.ofList v)
      | none => .name (String.ofList cs)

/-- Reads a property class; the cursor stands at the letter. -/
def readProperty (m : Mode) (start : Place) (negated : Bool) (c : Cursor) :
    Except Fault (Tree × Cursor) :=
  let first := c.step m
  match first.peek? with
  | none => refuse .escapeEnd first.here
  | some x =>
    if x = '\x7b' then
      let (text, stop) := (first.step m).takeWhile m (· ≠ '\x7d')
      if stop.atEnd then refuse .escapeEnd stop.here
      else
        let after := stop.next
        .ok (.property ⟨after.since start, negated, Query.ofText text⟩, after)
    else if x = '\\' then refuse .propertyEscape first.span
    else
      let after := first.step m
      .ok (.property ⟨after.since start, negated, .name (String.singleton x)⟩, after)

/-! ## Word boundaries -/

/-- The characters in the name of a special word boundary. -/
def isBoundaryChar (c : Char) : Bool :=
  ('A' ≤ c && c ≤ 'Z') || ('a' ≤ c && c ≤ 'z') || c = '-'

/-- The special word boundary with a name. -/
def boundaryNamed? (name : String) : Option AssertionKind :=
  match name with
  | "start" => some .wordStart
  | "end" => some .wordEnd
  | "start-half" => some .wordStartHalf
  | "end-half" => some .wordEndHalf
  | _ => none

/-- Reads the braces after a word boundary, unless they begin like a count of repetitions. -/
def readBoundary (m : Mode) (start : Place) (c : Cursor) :
    Except Fault (Option AssertionKind × Cursor) :=
  let first := c.step m
  match first.peek? with
  | none => refuse .boundaryEnd (first.since start)
  | some x =>
    if isBoundaryChar x then
      let (name, stop) := first.takeWhile m isBoundaryChar
      if stop.isAt '\x7d' then
        match boundaryNamed? (String.ofList name) with
        | some kind => .ok (some kind, stop.next)
        | none => refuse .boundaryUnknown (stop.since first.place)
      else refuse .boundaryUnclosed (stop.since c.place)
    else .ok (none, c)

/-! ## All escapes -/

/-- The control characters with a letter. -/
def controlNamed? (c : Char) : Option Char :=
  match c with
  | 'a' => some '\x07'
  | 'f' => some '\x0c'
  | 't' => some '\t'
  | 'n' => some '\n'
  | 'r' => some '\r'
  | 'v' => some '\x0b'
  | _ => none

/-- The assertions with a sign of their own. -/
def assertionNamed? (c : Char) : Option AssertionKind :=
  match c with
  | 'A' => some .startText
  | 'z' => some .endText
  | 'B' => some .notWordBoundary
  | '<' => some .wordStart
  | '>' => some .wordEnd
  | _ => none

/-- The classes with a letter, and whether the letter negates. -/
def perlNamed? (c : Char) : Option (PerlClass × Bool) :=
  match c with
  | 'd' => some (.digit, false)
  | 's' => some (.space, false)
  | 'w' => some (.word, false)
  | 'D' => some (.digit, true)
  | 'S' => some (.space, true)
  | 'W' => some (.word, true)
  | _ => none

/-- Reads the sign that begins with the backslash at the cursor. -/
def readEscape (m : Mode) (c : Cursor) : Except Fault (Tree × Cursor) :=
  let start := c.place
  let at1 := c.next
  match at1.peek? with
  | none => refuse .escapeEnd (at1.since start)
  | some x =>
    let after := at1.next
    if isOctal x && m.octal then .ok (readOctal start at1)
    else if x.isDigit && !m.octal then refuse .backreference (after.since start)
    else if x = 'x' || x = 'u' || x = 'U' then readHex m start x at1
    else if x = 'p' || x = 'P' then readProperty m start (x = 'P') at1
    else
      let span := after.since start
      match perlNamed? x, controlNamed? x, assertionNamed? x with
      | some (kind, negated), _, _ => .ok (.perl span negated kind, after)
      | _, some ch, _ => .ok (.literal ⟨span, ch, false⟩, after)
      | _, _, some kind => .ok (.assertion span kind, after)
      | none, none, none =>
        if isEscapable x then .ok (.literal ⟨span, x, false⟩, after)
        else if x = 'b' then
          if after.isAt '\x7b' then do
            match ← readBoundary m start after with
            | (some kind, stop) => .ok (.assertion (stop.since start) kind, stop)
            | (none, _) => .ok (.assertion span .wordBoundary, after)
          else .ok (.assertion span .wordBoundary, after)
        else refuse .escapeUnknown span

end CaptureTypes.Pattern
