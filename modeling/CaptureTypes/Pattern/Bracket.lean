/-
# Reading classes in square brackets

Classes nest, and between the items of one level stand operators that
combine all that precedes them with what follows.  The reader keeps a stack
of what is open: a bracket with the items before it, or an operator with
its left side.  Every turn of the loop passes at least one character, so
the length of the pattern bounds the number of turns.
-/
import CaptureTypes.Pattern.Escape

namespace CaptureTypes.Pattern

/-- Items read at one level, the latest first, and the span they cover. -/
structure Items where
  span : Span
  items : List Bracket
deriving Repr

namespace Items

/-- No items yet, at a place. -/
def empty (c : Cursor) : Items := ⟨c.here, []⟩

/-- One more item. -/
def push (u : Items) (b : Bracket) : Items :=
  ⟨⟨if u.items.isEmpty then b.span.start else u.span.start, b.span.stop⟩, b :: u.items⟩

/-- The items as one class. -/
def toBracket (u : Items) : Bracket :=
  match u.items with
  | [] => .nothing u.span
  | [b] => b
  | bs => .union u.span bs.reverse

end Items

/-- What is open while a class is read: a bracket, with the items before it, or an operator,
with its left side. -/
inductive Open where
  | bracket (outer : Items) (span : Span) (negated : Bool)
  | operator (op : SetOp) (lhs : Bracket)
deriving Repr

/-- The span that marks the innermost open bracket. -/
def openSpan (here : Span) : List Open → Span
  | [] => here
  | .bracket _ span _ :: _ => span
  | _ :: rest => openSpan here rest

/-- Puts the left side of a pending operator to the right side that is complete now. -/
def closeOperator (rhs : Bracket) : List Open → Bracket × List Open
  | .operator op lhs :: rest => (.binary ⟨lhs.span.start, rhs.span.stop⟩ op lhs rhs, rest)
  | stack => (rhs, stack)

/-- Reads dashes at the start of a class, which stand for themselves. -/
def readDashes (m : Mode) (start : Place) : Nat → Items → Cursor → Except Fault (Items × Cursor)
  | 0, u, c => .ok (u, c)
  | fuel + 1, u, c =>
    if c.isAt '-' then
      let after := c.step m
      if after.atEnd then refuse .classUnclosed (.point start)
      else readDashes m start fuel (u.push (.literal ⟨c.span, '-', false⟩)) after
    else .ok (u, c)

/-- Reads the start of a class: the bracket, the sign of negation, and the dashes or the
closing bracket that stand for themselves there. -/
def readOpening (m : Mode) (c : Cursor) : Except Fault (Span × Bool × Items × Cursor) := do
  let start := c.place
  let first := c.step m
  if first.atEnd then refuse .classUnclosed (first.since start)
  let negated := first.isAt '^'
  let second := if negated then first.step m else first
  if second.atEnd then refuse .classUnclosed (second.since start)
  let (items, third) ← readDashes m start second.rest.length (Items.empty second) second
  if items.items.isEmpty && third.isAt ']' then
    let after := third.step m
    if after.atEnd then refuse .classUnclosed (after.since start)
    else .ok (after.since start, negated, items.push (.literal ⟨third.span, ']', false⟩), after)
  else .ok (third.since start, negated, items, third)

/-- The class with a name between colons. -/
def asciiNamed? (name : String) : Option AsciiClass :=
  match name with
  | "alnum" => some .alnum
  | "alpha" => some .alpha
  | "ascii" => some .ascii
  | "blank" => some .blank
  | "cntrl" => some .cntrl
  | "digit" => some .digit
  | "graph" => some .graph
  | "lower" => some .lower
  | "print" => some .print
  | "punct" => some .punct
  | "space" => some .space
  | "upper" => some .upper
  | "word" => some .word
  | "xdigit" => some .xdigit
  | _ => none

/-- Passes over the characters before the next colon. -/
def toColon : Nat → Cursor → List Char → List Char × Cursor
  | 0, c, acc => (acc.reverse, c)
  | fuel + 1, c, acc =>
    match c.peek? with
    | some x => if x = ':' then (acc.reverse, c) else toColon fuel c.next (x :: acc)
    | none => (acc.reverse, c)

/-- Reads a class with a name between colons, if one stands here. -/
def readAscii? (c : Cursor) : Option (Bracket × Cursor) := do
  let named ← c.pass? ['[', ':']
  let negated := named.isAt '^'
  let start := if negated then named.next else named
  let (name, stop) := toColon start.rest.length start []
  let after ← stop.pass? [':', ']']
  let kind ← asciiNamed? (String.ofList name)
  some (.ascii (after.since c.place) negated kind, after)

/-- Reads one sign inside a class. -/
def readSign (m : Mode) (c : Cursor) : Except Fault (Tree × Cursor) :=
  match c.peek? with
  | some '\\' => readEscape m c
  | some x => .ok (.literal ⟨c.span, x, false⟩, c.next)
  | none => .ok (.nothing c.here, c)

/-- A sign as an item of a class; a sign that stands for no characters is refused. -/
def itemOf : Tree → Except Fault Bracket
  | .literal l => .ok (.literal l)
  | .perl s n k => .ok (.perl s n k)
  | .property p => .ok (.property p)
  | t => refuse .classEscape t.span

/-- A sign as a bound of a range; only a single character will do. -/
def boundOf : Tree → Except Fault Literal
  | .literal l => .ok l
  | t => refuse .classRangeBound t.span

/-- Reads an item: one sign, or a range between two. -/
def readItem (m : Mode) (stack : List Open) (c : Cursor) : Except Fault (Bracket × Cursor) := do
  let (first, c1) ← readSign m c
  let c2 := c1.skip m
  if c2.atEnd then refuse .classUnclosed (openSpan c2.here stack)
  let beyond := c2.peekPast m
  if !c2.isAt '-' || beyond == some ']' || beyond == some '-' then
    .ok (← itemOf first, c2)
  else
    let c3 := c2.step m
    if c3.atEnd then refuse .classUnclosed (openSpan c3.here stack)
    let (second, c4) ← readSign m c3
    let lo ← boundOf first
    let hi ← boundOf second
    let span : Span := ⟨first.span.start, second.span.stop⟩
    if lo.char ≤ hi.char then .ok (.range span lo hi, c4) else refuse .classRangeOrder span

/-- The operator that starts here: a sign written twice. -/
def operatorAt? (c : Cursor) : Option SetOp :=
  match c.rest with
  | '&' :: '&' :: _ => some .intersection
  | '-' :: '-' :: _ => some .difference
  | '~' :: '~' :: _ => some .symmetricDifference
  | _ => none

/-- Reads up to the bracket that closes the outermost class; `u` holds the items of the
present level. -/
def readLevel (m : Mode) : Nat → List Open → Items → Cursor → Except Fault (Tree × Cursor)
  | 0, stack, _, c => refuse .classUnclosed (openSpan c.here stack)
  | fuel + 1, stack, u, c0 =>
    let c := c0.skip m
    match c.peek? with
    | none => refuse .classUnclosed (openSpan c.here stack)
    | some '[' =>
      match (if stack.isEmpty then none else readAscii? c) with
      | some (cls, after) => readLevel m fuel stack (u.push cls) after
      | none => do
        let (span, negated, items, after) ← readOpening m c
        readLevel m fuel (.bracket u span negated :: stack) items after
    | some ']' =>
      let (inner, below) := closeOperator u.toBracket stack
      match below with
      | .bracket outer span negated :: rest =>
        let whole : Span := ⟨span.start, c.next.place⟩
        if rest.isEmpty then .ok (.bracket whole negated inner, c.next)
        else readLevel m fuel rest (outer.push (.nested whole negated inner)) c.next
      | _ => refuse .classUnclosed c.here
    | some _ =>
      match operatorAt? c with
      | some op =>
        let (lhs, below) := closeOperator u.toBracket stack
        readLevel m fuel (.operator op lhs :: below) (Items.empty c.next.next) c.next.next
      | none => do
        let (item, after) ← readItem m stack c
        readLevel m fuel stack (u.push item) after

/-- Reads the class that begins here. -/
def readBracket (m : Mode) (c : Cursor) : Except Fault (Tree × Cursor) :=
  readLevel m (c.rest.length + 1) [] (Items.empty c) c

end CaptureTypes.Pattern
