/-
# Why a pattern is refused

A fault is a cause at a span.  Three causes point at a second span, that of
the thing said twice.  `Cause.text` words each cause; where the words are
shown below the pattern is the work of `Pattern.Report`.
-/
import CaptureTypes.Pattern.Place

namespace CaptureTypes.Pattern

/-- The ways in which a pattern can be wrong. -/
inductive Cause where
  | nestLimit
  | classEscape
  | classRangeOrder
  | classRangeBound
  | classUnclosed
  | decimalInvalid
  | hexEmpty
  | hexInvalid
  | hexDigit
  | escapeEnd
  | escapeUnknown
  | flagDangling
  | flagDuplicate (first : Span)
  | flagNegatedTwice (first : Span)
  | flagEnd
  | flagUnknown
  | nameDuplicate (first : Span)
  | nameEmpty
  | nameInvalid
  | nameEnd
  | groupUnclosed
  | groupUnopened
  | countOrder
  | countEmpty
  | countUnclosed
  | repetitionMissing
  | boundaryUnclosed
  | boundaryUnknown
  | boundaryEnd
  | propertyEscape
  | backreference
  | lookAround
  | unicodeNotAllowed
  | invalidText
  | propertyUnknown
  | propertyValueUnknown
deriving DecidableEq, Repr

/-- How deep groups, classes, repetitions, sequences and alternatives may nest. -/
def nestLimit : Nat := 250

/-- The words for a cause. -/
def Cause.text : Cause → String
  | nestLimit => "exceed the maximum number of nested parentheses/brackets (250)"
  | classEscape => "invalid escape sequence found in character class"
  | classRangeOrder => "invalid character class range, the start must be <= the end"
  | classRangeBound => "invalid range boundary, must be a literal"
  | classUnclosed => "unclosed character class"
  | decimalInvalid => "decimal literal invalid"
  | hexEmpty => "hexadecimal literal empty"
  | hexInvalid => "hexadecimal literal is not a Unicode scalar value"
  | hexDigit => "invalid hexadecimal digit"
  | escapeEnd => "incomplete escape sequence, reached end of pattern prematurely"
  | escapeUnknown => "unrecognized escape sequence"
  | flagDangling => "dangling flag negation operator"
  | flagDuplicate _ => "duplicate flag"
  | flagNegatedTwice _ => "flag negation operator repeated"
  | flagEnd => "expected flag but got end of regex"
  | flagUnknown => "unrecognized flag"
  | nameDuplicate _ => "duplicate capture group name"
  | nameEmpty => "empty capture group name"
  | nameInvalid => "invalid capture group character"
  | nameEnd => "unclosed capture group name"
  | groupUnclosed => "unclosed group"
  | groupUnopened => "unopened group"
  | countOrder => "invalid repetition count range, the start must be <= the end"
  | countEmpty => "repetition quantifier expects a valid decimal"
  | countUnclosed => "unclosed counted repetition"
  | repetitionMissing => "repetition operator missing expression"
  | boundaryUnclosed =>
    "special word boundary assertion is either unclosed or contains an invalid character"
  | boundaryUnknown =>
    "unrecognized special word boundary assertion, valid choices are: start, end, " ++
      "start-half or end-half"
  | boundaryEnd =>
    "found either the beginning of a special word boundary or a bounded repetition on a \\b " ++
      "with an opening brace, but no closing brace"
  | propertyEscape => "invalid Unicode character class"
  | backreference => "backreferences are not supported"
  | lookAround => "look-around, including look-ahead and look-behind, is not supported"
  | unicodeNotAllowed => "Unicode not allowed here"
  | invalidText => "pattern can match invalid UTF-8"
  | propertyUnknown => "Unicode property not found"
  | propertyValueUnknown => "Unicode property value not found"

/-- The span of the first mention, where a cause has one. -/
def Cause.firstMention? : Cause → Option Span
  | flagDuplicate s => some s
  | flagNegatedTwice s => some s
  | nameDuplicate s => some s
  | _ => none

/-- A cause and the span at which it shows. -/
structure Fault where
  cause : Cause
  span : Span
deriving DecidableEq, Repr

/-- The spans that a fault marks. -/
def Fault.spans (f : Fault) : List Span := f.span :: f.cause.firstMention?.toList

end CaptureTypes.Pattern
