/-
# Queries for sets of characters

A pattern names a set of characters by a property, by a general category,
by a script, or by a property and a value.  `oneOf` and `withValue` answer
such queries; `word`, `blank`, `wordStart` and `wordContinue` are the sets
that patterns and tokens use without a query.
-/
import CaptureTypes.Unicode.Alias
import CaptureTypes.Unicode.Category
import CaptureTypes.Unicode.Script
import CaptureTypes.Unicode.Age
import CaptureTypes.Unicode.Segmentation
import CaptureTypes.Unicode.Identifier
import CaptureTypes.Unicode.Casing
import CaptureTypes.Unicode.Letter
import CaptureTypes.Unicode.Alphanumeric
import CaptureTypes.Unicode.Symbol

namespace CaptureTypes.Unicode.Property

/-- The properties that a character has or has not: the canonical name, the
loose names, the table. -/
def binary : List (String × List String × CharSet) :=
  [("idstart", ["ids", "idstart"], Identifier.idStart),
   ("idcontinue", ["idc", "idcontinue"], Identifier.idContinue),
   ("xidstart", ["xids", "xidstart"], Identifier.xidStart),
   ("xidcontinue", ["xidc", "xidcontinue"], Identifier.xidContinue),
   ("otheridstart", ["otheridstart", "oids"], Identifier.otherIDStart),
   ("otheridcontinue", ["otheridcontinue", "oidc"], Identifier.otherIDContinue),
   ("patternsyntax", ["patsyn", "patternsyntax"], Identifier.patternSyntax),
   ("patternwhitespace", ["patws", "patternwhitespace"], Identifier.patternWhiteSpace),
   ("idcompatmathstart", ["idcompatmathstart"], Identifier.idCompatMathStart),
   ("idcompatmathcontinue", ["idcompatmathcontinue"], Identifier.idCompatMathContinue),
   ("lowercase", ["lower", "lowercase"], Casing.lowercase),
   ("uppercase", ["upper", "uppercase"], Casing.uppercase), ("cased", ["cased"], Casing.cased),
   ("caseignorable", ["ci", "caseignorable"], Casing.caseIgnorable),
   ("changeswhenlowercased", ["cwl", "changeswhenlowercased"], Casing.changesWhenLowercased),
   ("changeswhenuppercased", ["cwu", "changeswhenuppercased"], Casing.changesWhenUppercased),
   ("changeswhentitlecased", ["cwt", "changeswhentitlecased"], Casing.changesWhenTitlecased),
   ("changeswhencasefolded", ["cwcf", "changeswhencasefolded"], Casing.changesWhenCasefolded),
   ("changeswhencasemapped", ["cwcm", "changeswhencasemapped"], Casing.changesWhenCasemapped),
   ("changeswhennfkccasefolded", ["cwkcf", "changeswhennfkccasefolded"], Casing.changesWhenNFKCCasefolded),
   ("otherlowercase", ["otherlowercase", "olower"], Casing.otherLowercase),
   ("otheruppercase", ["otheruppercase", "oupper"], Casing.otherUppercase),
   ("softdotted", ["sd", "softdotted"], Casing.softDotted),
   ("alphabetic", ["alpha", "alphabetic"], alphabetic),
   ("otheralphabetic", ["otheralphabetic", "oalpha"], Letter.otherAlphabetic),
   ("ideographic", ["ideo", "ideographic"], Letter.ideographic),
   ("unifiedideograph", ["uideo", "unifiedideograph"], Letter.unifiedIdeograph),
   ("radical", ["radical"], Letter.radical),
   ("idsbinaryoperator", ["idsb", "idsbinaryoperator"], Letter.idsBinaryOperator),
   ("idstrinaryoperator", ["idst", "idstrinaryoperator"], Letter.idsTrinaryOperator),
   ("idsunaryoperator", ["idsunaryoperator", "idsu"], Letter.idsUnaryOperator),
   ("diacritic", ["dia", "diacritic"], Letter.diacritic),
   ("extender", ["ext", "extender"], Letter.extender),
   ("graphemebase", ["grbase", "graphemebase"], Letter.graphemeBase),
   ("graphemeextend", ["grext", "graphemeextend"], Letter.graphemeExtend),
   ("graphemelink", ["graphemelink", "grlink"], Letter.graphemeLink),
   ("othergraphemeextend", ["othergraphemeextend", "ogrext"], Letter.otherGraphemeExtend),
   ("modifiercombiningmark", ["modifiercombiningmark", "mcm"], Letter.modifierCombiningMark),
   ("logicalorderexception", ["loe", "logicalorderexception"], Letter.logicalOrderException),
   ("math", ["math"], Letter.math), ("othermath", ["othermath", "omath"], Letter.otherMath),
   ("emoji", ["emoji"], Symbol.emoji),
   ("emojicomponent", ["ecomp", "emojicomponent"], Symbol.emojiComponent),
   ("emojimodifier", ["emod", "emojimodifier"], Symbol.emojiModifier),
   ("emojimodifierbase", ["ebase", "emojimodifierbase"], Symbol.emojiModifierBase),
   ("emojipresentation", ["epres", "emojipresentation"], Symbol.emojiPresentation),
   ("extendedpictographic", ["extpict", "extendedpictographic"], Symbol.extendedPictographic),
   ("regionalindicator", ["ri", "regionalindicator"], Symbol.regionalIndicator),
   ("asciihexdigit", ["ahex", "asciihexdigit"], Symbol.asciiHexDigit),
   ("hexdigit", ["hex", "hexdigit"], Symbol.hexDigit), ("dash", ["dash"], Symbol.dash),
   ("hyphen", ["hyphen"], Symbol.hyphen),
   ("quotationmark", ["qmark", "quotationmark"], Symbol.quotationMark),
   ("sentenceterminal", ["sterm", "sentenceterminal"], Symbol.sentenceTerminal),
   ("terminalpunctuation", ["term", "terminalpunctuation"], Symbol.terminalPunctuation),
   ("bidicontrol", ["bidic", "bidicontrol"], Symbol.bidiControl),
   ("bidimirrored", ["bidim", "bidimirrored"], Symbol.bidiMirrored),
   ("defaultignorablecodepoint", ["di", "defaultignorablecodepoint"], Symbol.defaultIgnorableCodePoint),
   ("otherdefaultignorablecodepoint", ["otherdefaultignorablecodepoint", "odi"], Symbol.otherDefaultIgnorableCodePoint),
   ("deprecated", ["dep", "deprecated"], Symbol.deprecated),
   ("joincontrol", ["joinc", "joincontrol"], Symbol.joinControl),
   ("noncharactercodepoint", ["nchar", "noncharactercodepoint"], Symbol.noncharacterCodePoint),
   ("prependedconcatenationmark", ["pcm", "prependedconcatenationmark"], Symbol.prependedConcatenationMark),
   ("variationselector", ["vs", "variationselector"], Symbol.variationSelector),
   ("whitespace", ["wspace", "whitespace", "space"], Symbol.whiteSpace)]

/-- Why a query has no answer. -/
inductive Unknown where
  | property
  | value
deriving DecidableEq, Repr

/-- The form in which names are compared: without blanks, dashes, low lines
and anything beyond ASCII, in small letters, and without a leading "is".
The name "isc" keeps it, so that it does not become the name of the
category of other characters. -/
def loose (name : String) : String :=
  let cs := name.toList
  let hasIs := match cs with
    | i :: s :: _ => (i == 'i' || i == 'I') && (s == 's' || s == 'S')
    | _ => false
  let kept := ((if hasIs then cs.drop 2 else cs).filter fun c =>
    c.toNat < 0x80 && c != ' ' && c != '_' && c != '-').map Char.toLower
  if hasIs && kept == ['c'] then "isc" else String.ofList kept

/-- The canonical name of a property, by a loose name. -/
def canonical? (name : String) : Option String :=
  match binary.find? (fun p => p.2.1.contains name) with
  | some p => some p.1
  | none =>
    match Alias.valued.find? (fun p => p.2.contains name) with
    | some p => some p.1
    | none => if Alias.unsupported.contains name then some name else none

/-- The characters of a category, by a loose name; the surrogates are no
characters. -/
def category (name : String) : Option (Except Unknown CharSet) :=
  if name = "any" then some (.ok .all)
  else if name = "assigned" then some (.ok (CharSet.complement (Category.named "Cn")))
  else if name = "ascii" then some (.ok ⟨[(0, 0x7F)]⟩)
  else match Alias.code? Alias.categories name with
    | some "Cs" => some (.error .value)
    | some code => some (.ok (Category.named code))
    | none => none

/-- The characters of a script, by a loose name; two names stand for no
stretch of their own. -/
def script (name : String) (find : String → CharSet) : Option (Except Unknown CharSet) :=
  match Alias.code? Alias.scripts name with
  | some code =>
    if code = "Zzzz" || code = "Hrkt" then some (.error .value) else some (.ok (find code))
  | none => none

/-- The answer to a query by a single name: a property, else a category,
else a script.  Three short names are never properties, though properties
have them as well. -/
def oneOf (query : String) : Except Unknown CharSet :=
  let name := loose query
  let property? := if name = "cf" || name = "sc" || name = "lc" then none else canonical? name
  match property? with
  | some canonical =>
    match binary.find? (fun p => p.1 = canonical) with
    | some p => .ok p.2.2
    | none => .error .property
  | none => ((category name).orElse fun _ => script name Script.members).getD (.error .property)

/-- The answer to a query by a property and a value. -/
def withValue (property value : String) : Except Unknown CharSet :=
  let v := loose value
  let ofClass (list table : String) : Except Unknown CharSet :=
    match Alias.code? list v with
    | some code => .ok (Segmentation.members table code)
    | none => .error .value
  match canonical? (loose property) with
  | none => .error .property
  | some "generalcategory" => (category v).getD (.error .value)
  | some "script" => (script v Script.members).getD (.error .value)
  | some "scriptextensions" => (script v Script.usedWith).getD (.error .value)
  | some "age" =>
    let age := if v.startsWith "v" then
      (String.ofList (v.toList.drop 1 |>.dropLast)) ++ "." ++ String.ofList (v.toList.drop (v.length - 1)) else v
    match Age.members? age with
    | some s => .ok s
    | none => .error .value
  | some "graphemeclusterbreak" => ofClass Alias.graphemeBreaks Segmentation.grapheme
  | some "wordbreak" => ofClass Alias.wordBreaks Segmentation.word
  | some "sentencebreak" => ofClass Alias.sentenceBreaks Segmentation.sentence
  | some _ => .error .value

/-- White space. -/
def blank : CharSet := Symbol.whiteSpace

/-- The characters with which a word may begin, the low line apart. -/
def wordStart : CharSet := Identifier.xidStart

/-- The characters with which a word may go on. -/
def wordContinue : CharSet := Identifier.xidContinue

/-- The characters of words: alphabetic characters, marks, decimal digits,
connecting punctuation and the two joiners. -/
def word : CharSet :=
  CharSet.normal ⟨alphabetic.ranges ++ (Category.named "M").ranges ++ Category.digits.ranges ++
    (Category.named "Pc").ranges ++ Symbol.joinControl.ranges⟩

end CaptureTypes.Unicode.Property
