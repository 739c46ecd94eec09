/-
# The characters of tokens

Words begin with a letter or a low line and go on with letters, digits and
marks of any script.  The ASCII cases are spelled out; the tables decide
about all other characters.
-/
import CaptureTypes.Unicode.Property

namespace CaptureTypes.Token

/-- Whether a character is an ASCII letter or a low line. -/
def isPlainLetter (c : Char) : Bool := c.isAlpha || c == '_'

/-- Whether a character may begin a word. -/
def beginsWord (c : Char) : Bool :=
  isPlainLetter c || (0x80 ≤ c.toNat && Unicode.Property.wordStart.contains c)

/-- Whether a character may go on with a word. -/
def continuesWord (c : Char) : Bool :=
  isPlainLetter c || c.isDigit || (0x80 ≤ c.toNat && Unicode.Property.wordContinue.contains c)

/-- The characters that are signs. -/
def signs : List Char :=
  ['~', '!', '@', '#', '$', '%', '^', '&', '*', '-', '=', '+', '|', ';', ':', ',', '<', '.', '>',
   '/', '?', '\'']

/-- Whether a character between tokens is skipped: white space, and the two marks of writing
direction. -/
def isBlank (c : Char) : Bool :=
  c == ' ' || (9 ≤ c.toNat && c.toNat ≤ 13) ||
    (0x80 ≤ c.toNat && (c.toNat == 0x200E || c.toNat == 0x200F ||
      Unicode.Property.blank.contains c))

/-- The value of a hexadecimal digit. -/
def hexValue? (c : Char) : Option Nat :=
  if c.isDigit then some (c.toNat - 48)
  else if 'a' ≤ c ∧ c ≤ 'f' then some (c.toNat - 87)
  else if 'A' ≤ c ∧ c ≤ 'F' then some (c.toNat - 55)
  else none

/-- Whether a character is a hexadecimal digit. -/
def isHexDigit (c : Char) : Bool := (hexValue? c).isSome

/-- The rest of a text that begins with another one. -/
def after? : List Char → List Char → Option (List Char)
  | [], cs => some cs
  | _ :: _, [] => none
  | p :: ps, c :: cs => if p = c then after? ps cs else none

/-- Whether a text begins with another one. -/
def beginsWith (start cs : List Char) : Bool := (after? start cs).isSome

end CaptureTypes.Token
