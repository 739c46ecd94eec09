/-
# Text between quotation marks

Two ways to quote a text agree on all characters but one.  Quotation marks,
backslashes and the usual controls get a backslash; what does not show is
written by its number in braces.  The null character is a backslash and a
zero; in a literal of the language a digit after it would be read with it,
so there it is written with two hexadecimal digits.
-/
import CaptureTypes.Text.Decimal
import CaptureTypes.Unicode.Invisible

namespace CaptureTypes.Text

/-- A character by its number in braces. -/
def escapeNumber (c : Char) : List Char :=
  ['\\', 'u', '\x7b'] ++ hexadecimal c.toNat ++ ['\x7d']

/-- Whether a character does not show and is written by its number. -/
def isInvisible (c : Char) : Bool :=
  if c.toNat < 0x7F then c.toNat < 0x20 else Unicode.Invisible.members.contains c

/-- A character between quotation marks. -/
def escape (c : Char) : List Char :=
  match c with
  | '\x00' => ['\\', '0']
  | '\t' => ['\\', 't']
  | '\r' => ['\\', 'r']
  | '\n' => ['\\', 'n']
  | '"' => ['\\', '"']
  | '\\' => ['\\', '\\']
  | c => if isInvisible c then escapeNumber c else [c]

/-- A text as it is shown in reports, without the marks. -/
def escapeShown (s : List Char) : List Char := s.flatMap escape

/-- Whether a text begins with an octal digit. -/
def startsOctal : List Char → Bool
  | [] => false
  | c :: _ => '0' ≤ c && c ≤ '7'

/-- A text as the inside of a literal. -/
def escapeLiteral : List Char → List Char
  | [] => []
  | c :: rest =>
    (if c = '\x00' && startsOctal rest then ['\\', 'x', '0', '0'] else escape c) ++
      escapeLiteral rest

/-- A text as it is shown in reports. -/
def shown (s : String) : String := String.ofList ('"' :: escapeShown s.toList ++ ['"'])

/-- A text as a literal. -/
def literal (s : String) : String := String.ofList ('"' :: escapeLiteral s.toList ++ ['"'])

end CaptureTypes.Text
