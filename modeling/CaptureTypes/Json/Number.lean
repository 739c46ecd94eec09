/-
# Numbers of the data format

A number whose digits fit into 64 bits and that has neither fraction nor
exponent is an integer; any other is rounded to double precision.  The
digits that fit into 64 bits are kept, those after them only count; then
the number is scaled by powers of ten, in steps of at most 308.
-/
import CaptureTypes.Json.Reader
import CaptureTypes.Text.Shortest

namespace CaptureTypes.Json.Reader

/-- The largest whole number of 64 bits. -/
def wordLimit : Nat := 18446744073709551615

/-- The digits that come next, and the reader after them. -/
def digitsFrom : List Char → Nat → Nat → List Char × Reader
  | [], line, column => ([], ⟨[], line, column⟩)
  | c :: rest, line, column =>
    if c.isDigit then
      let (ds, r) := digitsFrom rest line (column + 1)
      (c :: ds, r)
    else ([], ⟨c :: rest, line, column⟩)

/-- The digits that come next, and the reader after them. -/
def digits (r : Reader) : List Char × Reader := digitsFrom r.rest r.line r.column

/-- Puts digits after a number as long as it fits into 64 bits; answers with the number and
the digits left over. -/
def gather (n : Nat) : List Char → Nat × List Char
  | [] => (n, [])
  | c :: rest =>
    let next := n * 10 + (c.toNat - 48)
    if next ≤ wordLimit then gather next rest else (n, c :: rest)

/-- A power of ten. -/
def power (e : Nat) : Float := Float.ofScientific 1 false e

/-- Scales a number by a power of ten; `fuel` bounds the number of steps. -/
def scale (r : Reader) : Nat → Float → Int → Except Fault Float
  | 0, f, _ => .ok f
  | fuel + 1, f, e =>
    if e.natAbs ≤ 308 then
      if 0 ≤ e then
        let g := f * power e.natAbs
        if g.isInf then r.fail .numberOutOfRange else .ok g
      else .ok (f / power e.natAbs)
    else if f == 0.0 then .ok f
    else if 0 ≤ e then r.fail .numberOutOfRange
    else scale r fuel (f / power 308) (e + 308)

/-- A number from its parts. -/
def floatOf (r : Reader) (negative : Bool) (significand : Nat) (e : Int) :
    Except Fault (Found × Reader) := do
  let f ← scale r (e.natAbs / 308 + 1) significand.toUInt64.toFloat e
  .ok (.float (String.ofList (Text.floatText (if negative then -f else f))), r)

/-- The largest exponent that is taken at its word. -/
def exponentLimit : Nat := 2147483647

/-- Puts digits after an exponent as long as it is taken at its word; otherwise answers with
the reader after the first digit too many. -/
def readExponentDigits (n : Nat) (r : Reader) : Nat → Except Reader (Nat × Reader)
  | 0 => .ok (n, r)
  | fuel + 1 =>
    match r.peek? with
    | none => .ok (n, r)
    | some c =>
      if c.isDigit then
        let next := n * 10 + (c.toNat - 48)
        if next ≤ exponentLimit then readExponentDigits next r.eat fuel else .error r.eat
      else .ok (n, r)

/-- Reads an exponent; the reader stands at its letter. -/
def readExponent (negative : Bool) (significand : Nat) (e : Int) (r : Reader) :
    Except Fault (Found × Reader) :=
  let r := r.eat
  let minus := r.peek? == some '-'
  let r := if minus || r.peek? == some '+' then r.eat else r
  match r.peek? with
  | none => r.fail .endInValue
  | some c =>
    if !c.isDigit then r.failAfter 1 .invalidNumber
    else
      match readExponentDigits (c.toNat - 48) r.eat r.rest.length with
      | .ok (n, r) => floatOf r negative significand (if minus then e - n else e + n)
      | .error r =>
        if significand ≠ 0 && !minus then r.fail .numberOutOfRange
        else .ok (.float (if negative then "-0.0" else "0.0"), r.digits.2)

/-- What follows the digits of a number that is not whole. -/
def readTail (negative : Bool) (significand : Nat) (e : Int) (r : Reader) :
    Except Fault (Found × Reader) :=
  if r.peek? == some 'e' || r.peek? == some 'E' then readExponent negative significand e r
  else floatOf r negative significand e

/-- Reads a fraction; the reader stands at its point. -/
def readFraction (negative : Bool) (significand : Nat) (e : Int) (r : Reader) :
    Except Fault (Found × Reader) :=
  let (ds, r) := r.eat.digits
  if ds.isEmpty then
    r.failAhead (if r.peek?.isNone then .endInValue else .invalidNumber)
  else
    let (n, left) := gather significand ds
    readTail negative n (e - ((ds.length - left.length : Nat) : Int)) r

/-- Reads a number; its sign was passed. -/
def readNumber (negative : Bool) (r : Reader) : Except Fault (Found × Reader) :=
  match r.peek? with
  | none => r.fail .endInValue
  | some c =>
    if !c.isDigit then r.failAfter 1 .invalidNumber
    else
      let (ds, after) := if c = '0' then ([c], r.eat) else r.digits
      let (n, left) := gather 0 ds
      if c = '0' && after.peek?.any Char.isDigit then after.failAhead .invalidNumber
      else if after.peek? == some '.' then readFraction negative n left.length after
      else if after.peek? == some 'e' || after.peek? == some 'E' then
        readExponent negative n left.length after
      else if !left.isEmpty then floatOf after negative n left.length
      else if negative && (n = 0 || 9223372036854775808 < n) then floatOf after true n 0
      else .ok (.integer negative n, after)

/-! ## Numbers that nobody wants -/

/-- Passes an exponent; the reader stands at its letter. -/
def passExponent (r : Reader) : Except Fault Reader :=
  let r := r.eat
  let r := if r.peek? == some '+' || r.peek? == some '-' then r.eat else r
  if r.peek?.any Char.isDigit then .ok r.digits.2 else r.failAfter 1 .invalidNumber

/-- Passes what follows the digits of a number. -/
def passTail (r : Reader) : Except Fault Reader :=
  if r.peek? == some 'e' || r.peek? == some 'E' then passExponent r else .ok r

/-- Passes a number; its sign was passed. -/
def passNumber (r : Reader) : Except Fault Reader :=
  if !r.peek?.any Char.isDigit then r.failAfter 1 .invalidNumber
  else
    let isZero := r.peek? == some '0'
    let after := if isZero then r.eat else r.digits.2
    if isZero && after.peek?.any Char.isDigit then after.failAhead .invalidNumber
    else if after.peek? == some '.' then
      let (ds, after) := after.eat.digits
      if ds.isEmpty then after.failAhead .invalidNumber else passTail after
    else passTail after

end CaptureTypes.Json.Reader
