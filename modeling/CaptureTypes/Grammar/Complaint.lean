/-
# What can be wrong with a placeholder and its attribute

A `Complaint` is a cause with the extent of source text to which it points.
`Wanted` names what would have been right at a place; a complaint says
whether something else stands there or the tokens are at their end.
-/
import CaptureTypes.Failure
import CaptureTypes.Options
import CaptureTypes.Token.Basic

namespace CaptureTypes.Grammar

/-- What would have been right. -/
inductive Wanted where
  | textLiteral
  | booleanLiteral
  | identifier
  | identifierNotKeyword (found : String)
  | lifetime
  | word (text : String)
  | sign (text : String)
  | group (delimiter : Delimiter)
  | expression
  | segment
deriving DecidableEq, Repr

/-- A group in words. -/
def groupName : Delimiter → String
  | .parenthesis => "parentheses"
  | .bracket => "square brackets"
  | .brace => "curly braces"

/-- What would have been right, in words. -/
def Wanted.describe : Wanted → String
  | textLiteral => "string literal"
  | booleanLiteral => "boolean literal"
  | identifier => "identifier"
  | identifierNotKeyword found => "identifier, found keyword `" ++ found ++ "`"
  | lifetime => "lifetime"
  | word text => "`" ++ text ++ "`"
  | sign text => "`" ++ text ++ "`"
  | group d => groupName d
  | expression => "an expression"
  | segment => "path segment after `::`"

/-- Several things of which each would have been right, in words. -/
def describeAny (ws : List Wanted) : String :=
  match ws with
  | [w] => w.describe
  | [v, w] => v.describe ++ " or " ++ w.describe
  | ws => "one of: " ++ ", ".intercalate (ws.map Wanted.describe)

/-- The sign that closes a group. -/
def closingSign : Delimiter → String
  | .parenthesis => ")"
  | .bracket => "]"
  | .brace => "\x7d"

/-- The ways in which a placeholder or its attribute can be wrong. -/
inductive Cause where
  | notTokens
  | expected (ws : List Wanted) (atEnd : Bool)
  | unfit (atEnd : Bool)
  | leftover (inside : Option Delimiter)
  | nestedAttribute
  | noTrait (object : Bool)
  | unknownOption (name : String)
  | notUnit
  | declaresGenerics
  | generation (error : GenerateError)
deriving DecidableEq, Repr

/-- The words for a cause. -/
def Cause.message : Cause → String
  | notTokens => "cannot parse string into token stream"
  | expected ws atEnd =>
    (if atEnd then "unexpected end of input, " else "") ++ "expected " ++ describeAny ws
  | unfit atEnd => if atEnd then "unexpected end of input" else "unexpected token"
  | leftover none => "unexpected token"
  | leftover (some d) => "unexpected token, expected `" ++ closingSign d ++ "`"
  | nestedAttribute => "unexpected attribute inside of attribute"
  | noTrait object =>
    if object then "at least one trait is required for an object type"
    else "at least one trait must be specified"
  | unknownOption name =>
    "unknown regex option `" ++ name ++ "`; expected one of: " ++ ", ".intercalate Toggle.names
  | notUnit =>
    "#[typed_regex] must be placed on a unit struct, e.g. `pub struct IsoDate;`"
  | declaresGenerics =>
    "#[typed_regex] structs cannot declare generics; the `'t` lifetime is added for you"
  | generation error => error.message

/-- A cause and where it shows. -/
structure Complaint where
  cause : Cause
  extent : Extent
deriving DecidableEq, Repr

end CaptureTypes.Grammar
