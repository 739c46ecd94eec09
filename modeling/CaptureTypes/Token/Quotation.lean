/-
# The text for which a literal stands

`quoted?` undoes the writing of a text as a literal: escapes stand for the
characters they name, a line end inside the literal is a line feed, and a
backslash before a line end joins the lines.  A raw literal stands for what
is between its marks.
-/
import CaptureTypes.Token.Literal

namespace CaptureTypes.Token

/-- The character for which a letter after a backslash stands. -/
def namedEscape? (c : Char) : Option Char :=
  if c = 'n' then some '\n'
  else if c = 'r' then some '\r'
  else if c = 't' then some '\t'
  else if c = '\\' then some '\\'
  else if c = '0' then some '\x00'
  else if c = '\'' then some '\''
  else if c = '"' then some '"'
  else none

/-- Whether a character is passed at the start of a continued line. -/
def isContinuationBlank (c : Char) : Bool := c == ' ' || c == '\t' || c == '\n' || c == '\r'

/-- The character given by two hexadecimal digits, and the rest after them. -/
def codeInPair? : List Char → Option (Char × List Char)
  | a :: b :: rest => do
    let high ← hexValue? a
    let low ← hexValue? b
    some (Char.ofNat (high * 16 + low), rest)
  | _ => none

/-- The character for which an escape stands, and the rest after it. -/
def escaped? : List Char → Option (Char × List Char)
  | 'x' :: rest => codeInPair? rest
  | 'u' :: rest => codeInBraces? rest
  | c :: rest => (namedEscape? c).map fun e => (e, rest)
  | [] => none

/-- The characters up to a closing mark; `fuel` is at least the number of characters. -/
def unquote? : Nat → List Char → Option (List Char)
  | 0, _ => none
  | _, [] => none
  | _ + 1, '"' :: _ => some []
  | fuel + 1, '\r' :: '\n' :: rest => (unquote? fuel rest).map ('\n' :: ·)
  | fuel + 1, '\\' :: c :: rest =>
    if c = '\n' ∨ c = '\r' then unquote? fuel (rest.dropWhile isContinuationBlank)
    else do
      let (e, rest) ← escaped? (c :: rest)
      (unquote? fuel rest).map (e :: ·)
  | fuel + 1, c :: rest => (unquote? fuel rest).map (c :: ·)

/-- The characters up to the closing mark of a raw text. -/
def unquoteRaw? (hashes : List Char) : List Char → Option (List Char)
  | [] => none
  | c :: rest =>
    if c = '"' ∧ beginsWith hashes rest then some []
    else (unquoteRaw? hashes rest).map (c :: ·)

/-- The text for which a literal stands, if it stands for a text of characters. -/
def quotedChars? : List Char → Option (List Char)
  | '"' :: rest => unquote? (rest.length + 1) rest
  | 'r' :: rest =>
    match rest.dropWhile (· = '#') with
    | '"' :: inside => unquoteRaw? (rest.takeWhile (· = '#')) inside
    | _ => none
  | _ => none

/-- The text for which a literal stands, if it stands for a text of characters. -/
def quoted? (literal : String) : Option String := (quotedChars? literal.toList).map String.ofList

end CaptureTypes.Token
