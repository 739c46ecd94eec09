/-
# Reading the data format

A text is read from left to right, without building its values first: what
is wrong with a value is reported before anything after it is looked at.
A `Reader` is the rest of the text with the place reached, a line and the
bytes of it that were passed.

Two places can be meant by a fault: `here`, after what was passed, and
`ahead`, which counts the next byte as passed.  Faults about a byte that
was only looked at are reported ahead.
-/
import CaptureTypes.Text.Quoted
import CaptureTypes.Text.Slice

namespace CaptureTypes.Json

/-- What stands where something else is expected. -/
inductive Found where
  | null
  | boolean (b : Bool)
  | integer (negative : Bool) (n : Nat)
  | float (digits : String)
  | text (s : String)
  | array
  | object
deriving DecidableEq, Repr

/-- What stands there, in words. -/
def Found.describe : Found → String
  | null => "null"
  | boolean b => "boolean `" ++ toString b ++ "`"
  | integer negative n => "integer `" ++ (if negative then "-" else "") ++ toString n ++ "`"
  | float digits => "floating point `" ++ digits ++ "`"
  | text s => "string " ++ Text.shown s
  | array => "sequence"
  | object => "map"

/-- The ways in which a text can be wrong. -/
inductive Cause where
  | endInValue
  | endInText
  | endInArray
  | endInObject
  | colonMissing
  | arrayCommaMissing
  | objectCommaMissing
  | valueMissing
  | wordMissing
  | keyNotText
  | trailingComma
  | trailingCharacters
  | invalidNumber
  | numberOutOfRange
  | invalidEscape
  | escapeCutShort
  | loneSurrogate
  | controlCharacter
  | invalidType (found : Found) (expected : String)
  | missingField (name : String)
  | duplicateField (name : String)
  | invalidLength (length : Nat) (expected : String)
deriving DecidableEq, Repr

/-- The words for a cause. -/
def Cause.text : Cause → String
  | endInValue => "EOF while parsing a value"
  | endInText => "EOF while parsing a string"
  | endInArray => "EOF while parsing a list"
  | endInObject => "EOF while parsing an object"
  | colonMissing => "expected `:`"
  | arrayCommaMissing => "expected `,` or `]`"
  | objectCommaMissing => "expected `,` or `\x7d`"
  | valueMissing => "expected value"
  | wordMissing => "expected ident"
  | keyNotText => "key must be a string"
  | trailingComma => "trailing comma"
  | trailingCharacters => "trailing characters"
  | invalidNumber => "invalid number"
  | numberOutOfRange => "number out of range"
  | invalidEscape => "invalid escape"
  | escapeCutShort => "unexpected end of hex escape"
  | loneSurrogate => "lone leading surrogate in hex escape"
  | controlCharacter => "control character (\\u0000-\\u001F) found while parsing a string"
  | invalidType found expected => "invalid type: " ++ found.describe ++ ", expected " ++ expected
  | missingField name => "missing field `" ++ name ++ "`"
  | duplicateField name => "duplicate field `" ++ name ++ "`"
  | invalidLength length expected =>
    "invalid length " ++ toString length ++ ", expected " ++ expected

/-- A cause at a place: a line from 1, and the bytes of it that were passed. -/
structure Fault where
  cause : Cause
  line : Nat
  column : Nat
deriving DecidableEq, Repr

/-- A fault in words. -/
def Fault.message (f : Fault) : String :=
  f.cause.text ++ " at line " ++ toString f.line ++ " column " ++ toString f.column

/-- The rest of a text, and the place reached. -/
structure Reader where
  rest : List Char
  line : Nat
  column : Nat
deriving Repr

/-- A reading of a value. -/
abbrev Reading (α : Type) := Reader → Except Fault (α × Reader)

namespace Reader

/-- The start of a text. -/
def start (text : List Char) : Reader := ⟨text, 1, 0⟩

/-- The reader after the next character. -/
def eat (r : Reader) : Reader :=
  match r.rest with
  | [] => r
  | c :: rest => if c = '\n' then ⟨rest, r.line + 1, 0⟩ else ⟨rest, r.line, r.column + c.utf8Size⟩

/-- The place after a number of bytes. -/
def placeAfter : Nat → List Char → Nat → Nat → Nat × Nat
  | _, [], line, column => (line, column)
  | n, c :: rest, line, column =>
    if n = 0 then (line, column)
    else if c = '\n' then placeAfter (n - 1) rest (line + 1) 0
    else placeAfter (n - c.utf8Size) rest line (column + min n c.utf8Size)

/-- A fault after a number of bytes. -/
def failAfter {α : Type} (r : Reader) (bytes : Nat) (cause : Cause) : Except Fault α :=
  let (line, column) := placeAfter bytes r.rest r.line r.column
  .error ⟨cause, line, column⟩

/-- A fault after what was passed. -/
def fail {α : Type} (r : Reader) (cause : Cause) : Except Fault α := .error ⟨cause, r.line, r.column⟩

/-- A fault about the next byte. -/
def failAhead {α : Type} (r : Reader) (cause : Cause) : Except Fault α := r.failAfter 1 cause

/-- Whether a character is white space of the format. -/
def isSpace (c : Char) : Bool := c = ' ' || c = '\n' || c = '\t' || c = '\r'

/-- The reader after white space. -/
def skipFrom : List Char → Nat → Nat → Reader
  | [], line, column => ⟨[], line, column⟩
  | c :: rest, line, column =>
    if isSpace c then
      if c = '\n' then skipFrom rest (line + 1) 0 else skipFrom rest line (column + 1)
    else ⟨c :: rest, line, column⟩

/-- The reader after white space. -/
def skip (r : Reader) : Reader := skipFrom r.rest r.line r.column

/-- The next character. -/
def peek? (r : Reader) : Option Char := r.rest.head?

/-! ## Words -/

/-- Passes the rest of a word whose first letter was passed. -/
def passWord : List Char → Reader → Except Fault Reader
  | [], r => .ok r
  | x :: word, r =>
    match r.peek? with
    | none => r.fail .endInValue
    | some c => if c = x then passWord word r.eat else r.failAfter 1 .wordMissing

/-! ## Texts -/

/-- The value of a hexadecimal digit. -/
def hexValue? (c : Char) : Option Nat :=
  if c.isDigit then some (c.toNat - 48)
  else if 'a' ≤ c && c ≤ 'f' then some (c.toNat - 87)
  else if 'A' ≤ c && c ≤ 'F' then some (c.toNat - 55)
  else none

/-- Reads four hexadecimal digits. -/
def readHex (r : Reader) : Except Fault (Nat × Reader) :=
  if Text.byteLength r.rest < 4 then r.failAfter (Text.byteLength r.rest) .endInText
  else
    match (r.rest.take 4).mapM hexValue? with
    | some [a, b, c, d] => .ok (((a * 16 + b) * 16 + c) * 16 + d, r.eat.eat.eat.eat)
    | _ => r.failAfter 4 .invalidEscape

/-- Whether a number is the first, or the second, of a pair that stands for one character. -/
def isLeading (n : Nat) : Bool := 0xD800 ≤ n && n ≤ 0xDBFF

/-- Whether a number is the second of a pair that stands for one character. -/
def isTrailing (n : Nat) : Bool := 0xDC00 ≤ n && n ≤ 0xDFFF

/-- Passes the sign that must follow inside a pair. -/
def passPairSign (x : Char) (r : Reader) : Except Fault Reader :=
  match r.peek? with
  | none => r.fail .endInText
  | some c => if c = x then .ok r.eat else r.failAfter 1 .escapeCutShort

/-- Reads a character by number; the letter that announces it was passed. -/
def readNumbered (r : Reader) : Except Fault (Char × Reader) := do
  let (n, r) ← r.readHex
  if isTrailing n then r.fail .loneSurrogate
  else if !isLeading n then .ok (Char.ofNat n, r)
  else
    let r ← passPairSign '\\' r
    let r ← passPairSign 'u' r
    let (t, r) ← r.readHex
    if isTrailing t then .ok (Char.ofNat (0x10000 + (n - 0xD800) * 0x400 + (t - 0xDC00)), r)
    else r.fail .loneSurrogate

/-- The character that a letter after a backslash stands for. -/
def escaped? (c : Char) : Option Char :=
  match c with
  | '"' => some '"'
  | '\\' => some '\\'
  | '/' => some '/'
  | 'b' => some '\x08'
  | 'f' => some '\x0c'
  | 'n' => some '\n'
  | 'r' => some '\r'
  | 't' => some '\t'
  | _ => none

/-- Reads what follows a backslash. -/
def readEscape (r : Reader) : Except Fault (Char × Reader) :=
  match r.peek? with
  | none => r.fail .endInText
  | some c =>
    match escaped? c with
    | some x => .ok (x, r.eat)
    | none => if c = 'u' then r.eat.readNumbered else r.failAfter 1 .invalidEscape

/-- Reads characters up to the closing quotation mark; `fuel` bounds their number. -/
def readChars : Nat → Reader → Except Fault (List Char × Reader)
  | 0, r => r.fail .endInText
  | fuel + 1, r =>
    match r.peek? with
    | none => r.fail .endInText
    | some c =>
      if c = '"' then .ok ([], r.eat)
      else if c = '\\' then do
        let (x, r) ← r.eat.readEscape
        let (xs, r) ← readChars fuel r
        .ok (x :: xs, r)
      else if c.toNat < 0x20 then r.failAfter 1 .controlCharacter
      else do
        let (xs, r) ← readChars fuel r.eat
        .ok (c :: xs, r)

/-- Reads a text; its first quotation mark was passed. -/
def readText (r : Reader) : Except Fault (String × Reader) := do
  let (cs, r) ← readChars (r.rest.length + 1) r
  .ok (String.ofList cs, r)

/-- Passes characters up to the closing quotation mark. Pairs are not looked into. -/
def passChars : Nat → Reader → Except Fault Reader
  | 0, r => r.fail .endInText
  | fuel + 1, r =>
    match r.peek? with
    | none => r.fail .endInText
    | some c =>
      if c = '"' then .ok r.eat
      else if c = '\\' then
        let after := r.eat
        match after.peek? with
        | none => after.fail .endInText
        | some x =>
          if x = 'u' then do
            let (_, r) ← after.eat.readHex
            passChars fuel r
          else if (escaped? x).isSome then passChars fuel after.eat
          else after.failAfter 1 .invalidEscape
      else if c.toNat < 0x20 then r.fail .controlCharacter
      else passChars fuel r.eat

/-- Passes a text that nobody wants; its first quotation mark was passed. -/
def passText (r : Reader) : Except Fault Reader := passChars (r.rest.length + 1) r

end Reader

end CaptureTypes.Json
