/-
# Reading a pattern

The reader walks once over the pattern and keeps a stack of what is open:
a group with the parts before it, or alternatives with the branches that
are complete.  `Reader` is its whole state, `Reader.turn` reads one part,
and every turn passes at least one character, so the length of the pattern
bounds the number of turns.

Groups are numbered in the order of their opening parentheses.  A list of
flags changes the mode of reading up to the end of the group in which it
stands.
-/
import CaptureTypes.Pattern.Bracket

namespace CaptureTypes.Pattern

/-- The parts of a sequence read so far, the latest first, and where it starts. -/
structure Parts where
  start : Place
  trees : List Tree
deriving Repr

/-- The parts as one tree that stops at a place. -/
def Parts.toTree (p : Parts) (stop : Place) : Tree := Tree.ofParts ⟨p.start, stop⟩ p.trees.reverse

/-- What is open: a group, with the sequence before it and the mode to return to, or
alternatives, the latest complete branch first. -/
inductive Frame where
  | group (outer : Parts) (span : Span) (kind : GroupKind) (verbose : Bool)
  | branches (start : Place) (done : List Tree)
deriving Repr

/-- A pattern in the middle of being read. -/
structure Reader where
  cursor : Cursor
  mode : Mode
  parts : Parts
  stack : List Frame
  groups : Nat
  names : List (String × Span)
deriving Repr

/-! ## Names of groups -/

/-- Whether a character can stand in the name of a group. -/
def isNameChar (first : Bool) (c : Char) : Bool :=
  if first then c = '_' || Unicode.alphabetic.contains c
  else c = '_' || c = '.' || c = '[' || c = ']' || Unicode.isAlphanumeric c

/-- Reads the characters of a name up to its closing sign. -/
def readNameChars (first : Bool) : List Char → Place → Except Fault (List Char × Cursor)
  | [], p => refuse .nameEnd (.point p)
  | c :: rest, p =>
    if c = '>' then .ok ([], ⟨c :: rest, p⟩)
    else if isNameChar first c then do
      let (cs, after) ← readNameChars false rest (p.after c)
      .ok (c :: cs, after)
    else refuse .nameInvalid ⟨p, p.after c⟩

/-- Reads the name of a group; `known` holds the names before it. -/
def readName (known : List (String × Span)) (c : Cursor) :
    Except Fault ((String × Span) × Cursor) := do
  let (cs, close) ← readNameChars true c.rest c.place
  if cs.isEmpty then refuse .nameEmpty (.point c.place)
  else
    let name := String.ofList cs
    let span := close.since c.place
    match known.lookup name with
    | some first => refuse (.nameDuplicate first) span
    | none => .ok ((name, span), close.next)

/-! ## Lists of flags -/

/-- The flag with a letter. -/
def flagNamed? (c : Char) : Option Flag :=
  match c with
  | 'i' => some .ignoreCase
  | 'm' => some .multiLine
  | 's' => some .dotNewLine
  | 'U' => some .swapGreed
  | 'u' => some .unicode
  | 'R' => some .crlf
  | 'x' => some .verbose
  | _ => none

/-- The span of the first sign in a list that says the same. -/
def saidBefore? (flag : Option Flag) (items : List FlagItem) : Option Span :=
  (items.find? fun item => item.flag == flag).map (·.span)

/-- Reads flags up to a colon or a closing parenthesis; `items` holds those before. -/
def readFlags (items : List FlagItem) : List Char → Place → Except Fault (List FlagItem × Cursor)
  | [], p => refuse .flagEnd (.point p)
  | c :: rest, p =>
    let span : Span := ⟨p, p.after c⟩
    if c = ':' || c = ')' then
      match items.getLast? with
      | some ⟨s, none⟩ => refuse .flagDangling s
      | _ => .ok (items, ⟨c :: rest, p⟩)
    else if c = '-' then
      match saidBefore? none items with
      | some first => refuse (.flagNegatedTwice first) span
      | none => readFlags (items ++ [⟨span, none⟩]) rest (p.after c)
    else
      match flagNamed? c with
      | none => refuse .flagUnknown span
      | some flag =>
        match saidBefore? (some flag) items with
        | some first => refuse (.flagDuplicate first) span
        | none => readFlags (items ++ [⟨span, some flag⟩]) rest (p.after c)

/-! ## Counts -/

/-- The largest count that can be written. -/
def countLimit : Nat := 4294967295

/-- Passes over white space, one character at a time. -/
def skipBlanks : List Char → Place → Cursor
  | [], p => ⟨[], p⟩
  | c :: rest, p => if isBlank c then skipBlanks rest (p.after c) else ⟨c :: rest, p⟩

/-- Passes over white space with the steps of a mode. -/
def stepBlanks (m : Mode) (c : Cursor) : Cursor := (c.takeWhile m isBlank).2

/-- Reads a count with the white space around it. -/
def readCount (m : Mode) (c : Cursor) : Except Fault Nat × Cursor :=
  let start := skipBlanks c.rest c.place
  let (digits, stop) := start.takeWhile m Char.isDigit
  let span := stop.since start.place
  let n := numberOf 10 digits
  let value := if digits.isEmpty then refuse .countEmpty span
    else if n ≤ countLimit then .ok n else refuse .decimalInvalid span
  (value, stepBlanks m stop)

/-- Reads the counts between braces; the cursor stands at the opening brace. The answer has
the least count, the greatest one if there is one, and the cursor at the closing brace. -/
def readCounts (m : Mode) (c : Cursor) : Except Fault (Nat × Option Nat × Cursor) := do
  let first := c.step m
  if first.atEnd then refuse .countUnclosed (first.since c.place)
  let (least, stop) := readCount m first
  if stop.atEnd then refuse .countUnclosed (stop.since c.place)
  let (lo, hi, close) ←
    if stop.isAt ',' then do
      let second := stop.step m
      if second.atEnd then refuse .countUnclosed (second.since c.place)
      let lo ← least
      if second.isAt '\x7d' then .ok (lo, none, second)
      else
        let (most, close) := readCount m second
        .ok (lo, some (← most), close)
    else do
      let n ← least
      .ok (n, some n, stop)
  if close.isAt '\x7d' then .ok (lo, hi, close)
  else refuse .countUnclosed (close.since c.place)

namespace Reader

/-- The reader before a pattern. -/
def start (m : Mode) (pattern : List Char) : Reader :=
  ⟨.ofChars pattern, m, ⟨.start, []⟩, [], 0, []⟩

/-- One more part, and the cursor after it. -/
def push (r : Reader) (t : Tree) (after : Cursor) : Reader :=
  { r with parts := { r.parts with trees := t :: r.parts.trees }, cursor := after }

/-! ## Groups -/

/-- The signs after an opening parenthesis that ask to look around. -/
def lookSigns : List (List Char) := [['?', '='], ['?', '!'], ['?', '<', '='], ['?', '<', '!']]

/-- The cursor after a sign that asks to look around. -/
def passLook? (c : Cursor) : Option Cursor := lookSigns.findSome? c.pass?

/-- Opens a group. -/
def enter (r : Reader) (span : Span) (kind : GroupKind) (verbose : Bool) (after : Cursor) :
    Reader :=
  { r with
    cursor := after
    mode := { r.mode with verbose := verbose }
    parts := ⟨after.place, []⟩
    stack := .group r.parts span kind r.mode.verbose :: r.stack }

/-- Reads what an opening parenthesis begins: a group, or a list of flags. -/
def readOpen (r : Reader) : Except Fault Reader := do
  let span := r.cursor.span
  let c := r.cursor.step r.mode
  if let some after := passLook? c then refuse .lookAround (after.since span.start)
  let verbose := r.mode.verbose
  match (c.pass? ['?', 'P', '<']).or (c.pass? ['?', '<']) with
  | some inside =>
    let (name, after) ← readName r.names inside
    let index := r.groups + 1
    .ok (enter { r with groups := index, names := r.names ++ [name] } span
      (.named index name.1) verbose after)
  | none =>
    if !c.isAt '?' then
      let index := r.groups + 1
      .ok (enter { r with groups := index } span (.numbered index) verbose c)
    else
      let inside := c.next
      if inside.atEnd then refuse .groupUnclosed span
      let (items, close) ← readFlags [] inside.rest inside.place
      let mode := (flagValue .verbose true items).getD verbose
      if close.isAt ':' then .ok (enter r span (.plain items) mode close.next)
      else if items.isEmpty then refuse .repetitionMissing c.here
      else
        let after := close.next
        .ok ({ r with mode := { r.mode with verbose := mode } }.push
          (.flags (after.since span.start) items) after)

/-- The alternatives that a sequence completes, if it stands among such, and what is open
around them. -/
def closeBranches (body : Tree) (stop : Place) : List Frame → Tree × List Frame
  | .branches start done :: rest => (.ofBranches ⟨start, stop⟩ (body :: done).reverse, rest)
  | stack => (body, stack)

/-- Closes the innermost group. -/
def readClose (r : Reader) : Except Fault Reader :=
  let c := r.cursor
  match closeBranches (r.parts.toTree c.place) c.place r.stack with
  | (body, .group outer span kind verbose :: rest) =>
    .ok ({ r with mode := { r.mode with verbose := verbose }, parts := outer, stack := rest }.push
      (.group ⟨span.start, c.next.place⟩ kind body) c.next)
  | _ => refuse .groupUnopened c.span

/-- Completes a branch. -/
def readBranch (r : Reader) : Reader :=
  let c := r.cursor
  let branch := r.parts.toTree c.place
  let stack := match r.stack with
    | .branches start done :: rest => .branches start (branch :: done) :: rest
    | stack => .branches r.parts.start [branch] :: stack
  { r with cursor := c.next, parts := ⟨c.next.place, []⟩, stack := stack }

/-! ## Repetitions -/

/-- The part that a sign of repetition at the cursor repeats, and the parts before it. -/
def repeated (r : Reader) : Except Fault (Tree × List Tree) :=
  match r.parts.trees with
  | [] => refuse .repetitionMissing r.cursor.here
  | .nothing _ :: _ => refuse .repetitionMissing r.cursor.here
  | .flags _ _ :: _ => refuse .repetitionMissing r.cursor.here
  | t :: before => .ok (t, before)

/-- Whether a repetition prefers more, and the cursor after the sign that says it does not. -/
def readGreed (c : Cursor) : Bool × Cursor := if c.isAt '?' then (false, c.next) else (true, c)

/-- Puts a repetition in the place of the part that it repeats. -/
def pushRepetition (r : Reader) (sub : Tree) (before : List Tree) (min : Nat) (max : Option Nat)
    (greedy : Bool) (after : Cursor) : Reader :=
  { r with parts := { r.parts with trees := before } }.push
    (.repetition (after.since sub.span.start) min max greedy sub) after

/-- Reads a sign of repetition without counts. -/
def readRepetition (r : Reader) (min : Nat) (max : Option Nat) : Except Fault Reader := do
  let (sub, before) ← r.repeated
  let (greedy, after) := readGreed r.cursor.next
  .ok (r.pushRepetition sub before min max greedy after)

/-- Reads a repetition with counts. -/
def readCounted (r : Reader) : Except Fault Reader := do
  let (sub, before) ← r.repeated
  let (min, max, close) ← readCounts r.mode r.cursor
  let (greedy, after) := readGreed (close.step r.mode)
  match max with
  | some m =>
    if m < min then refuse .countOrder (after.since r.cursor.place)
    else .ok (r.pushRepetition sub before min max greedy after)
  | none => .ok (r.pushRepetition sub before min max greedy after)

/-! ## The whole pattern -/

/-- Reads the part that begins with a character at the cursor. -/
def turn (r : Reader) (x : Char) : Except Fault Reader :=
  let c := r.cursor
  match x with
  | '(' => r.readOpen
  | ')' => r.readClose
  | '|' => .ok r.readBranch
  | '[' => do
    let (t, after) ← readBracket r.mode c
    .ok (r.push t after)
  | '?' => r.readRepetition 0 (some 1)
  | '*' => r.readRepetition 0 none
  | '+' => r.readRepetition 1 none
  | '\x7b' => r.readCounted
  | '\\' => do
    let (t, after) ← readEscape r.mode c
    .ok (r.push t after)
  | '.' => .ok (r.push (.dot c.span) c.next)
  | '^' => .ok (r.push (.assertion c.span .startLine) c.next)
  | '$' => .ok (r.push (.assertion c.span .endLine) c.next)
  | x => .ok (r.push (.literal ⟨c.span, x, false⟩) c.next)

/-- The tree of a pattern that is read to its end. -/
def finish (r : Reader) : Except Fault Tree :=
  let stop := r.cursor.place
  match closeBranches (r.parts.toTree stop) stop r.stack with
  | (_, .group _ span _ _ :: _) => refuse .groupUnclosed span
  | (t, _) => .ok t

/-- Reads part after part. -/
def run : Nat → Reader → Except Fault Reader
  | 0, r => .ok r
  | fuel + 1, r =>
    let c := r.cursor.skip r.mode
    match c.peek? with
    | none => .ok { r with cursor := c }
    | some x => do run fuel (← turn { r with cursor := c } x)

end Reader

/-- Reads a pattern. -/
def read (m : Mode) (pattern : List Char) : Except Fault Tree := do
  let t ← (← Reader.run (pattern.length + 1) (Reader.start m pattern)).finish
  match t.tooDeep 0 nestLimit with
  | some span => refuse .nestLimit span
  | none => .ok t

end CaptureTypes.Pattern
