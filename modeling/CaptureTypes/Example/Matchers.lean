/-
# Example matchers

Declarations that exercise what patterns and options can do.  The example
programs use them.
-/
import CaptureTypes.Spec

namespace CaptureTypes.Example

/-- A number of at least two digits, and its first digit. -/
def testOne : Spec :=
  Spec.of "Test1" <|
    "(?<digits>(?<firstGroup>\\d)\\d+)"

/-- A date with its time. -/
def isoDate : Spec :=
  Spec.of "IsoDate" <|
    "^(?<year>\\d\x7b4\x7d)-(?<month>\\d\x7b2\x7d)-(?<day>\\d\x7b2\x7d)T" ++
    "(?<hour>\\d\x7b2\x7d):(?<min>\\d\x7b2\x7d):(?<sec>\\d\x7b2\x7d\\.\\d\x7b3\x7d)Z$"

/-- Words joined by single hyphens. -/
def githubUsername : Spec :=
  let pattern :=
    "^([a-z\\d]+-)*[a-z\\d]+$"
  (Spec.of "GithubUsername" pattern).withOptions (Options.standard.set .ignoreCase true)

/-- An address with all its parts. -/
def urlRegex : Spec :=
  let pattern :=
    "\n" ++
    "    (?:(?<scheme>[a-z]+:)?//)\n" ++
    "    (?:(?<username>\\S+)(?::(?<password>\\S*))?@)?\n" ++
    "    (?<fullhost>\n" ++
    "      localhost\n" ++
    "      |(?<ipv4>(?:25[0-5]|2[0-4]\\d|1\\d\\d|[1-9]\\d|\\d)(?:\\.(?:25[0-5]|2" ++
    "[0-4]\\d|1\\d\\d|[1-9]\\d|\\d))\x7b3\x7d)\n" ++
    "      |\n" ++
    "         (?<host>(?:[a-z\\x\x7b00a1\x7d-\\x\x7bffff\x7d0-9]-*)*" ++
    "[a-z\\x\x7b00a1\x7d-\\x\x7bffff\x7d0-9]+)\n" ++
    "         (?<domain>\\.(?:[a-z\\x\x7b00a1\x7d-\\x\x7bffff\x7d0-9]-*)*" ++
    "[a-z\\x\x7b00a1\x7d-\\x\x7bffff\x7d0-9]+)*\n" ++
    "         (?<tld>\\.[a-z\\x\x7b00a1\x7d-\\x\x7bffff\x7d]\x7b2,\x7d)\n" ++
    "    )\n" ++
    "    (?<port>:\\d\x7b2,5\x7d)?\n" ++
    "    (?:\n" ++
    "      (?<path>/[^/?\\s]*)*\n" ++
    "      (?:\n" ++
    "        \\?\n" ++
    "        (?<queryString>\\S*)\n" ++
    "      )?\n" ++
    "    )?"
  (Spec.of "UrlRegex" pattern).withOptions (Options.standard.set .ignoreWhitespace true)

/-- A version of three numbers, with what comes before a release. -/
def semver : Spec :=
  Spec.of "Semver" <|
    "^(?<major>0|[1-9]\\d*)\\.(?<minor>0|[1-9]\\d*)\\.(?<patch>0|[1-9]\\d*)(?:-" ++
    "(?<prerelease>[0-9A-Za-z.-]+))?$"

/-- A line of a log. -/
def logLine : Spec :=
  let pattern :=
    "^\\[(?<level>[a-z]+)\\]\\s+(\\S+):\\s+(?<message>.*)$"
  ((Spec.of "LogLine" pattern).withOptions (Options.standard.set .ignoreCase true)).inModule "logs"

/-- A line that gives a value to a key. -/
def keyValue : Spec :=
  let pattern :=
    "(?m)^\\s*(?<key>[a-z_]+)\\s*=\\s*(?<value>.*?)\\s*$"
  (Spec.of "KeyValue" pattern).withOptions (Options.standard.set .ignoreCase true)

/-- A number. -/
def numberPattern : Spec :=
  Spec.of "Number" <|
    "(\\d+)"

/-- A key and a value. -/
def pair : Spec :=
  Spec.of "Pair" <|
    "(?<key>\\w+)=(?<value>\\w*)"

/-- One word, without groups. -/
def hello : Spec :=
  Spec.of "Hello" <|
    "hello"

/-- An address whose segments are one group. -/
def segments : Spec :=
  Spec.of "Segments" <|
    "https?://(?<host>[^/\\s]+)(?<segment>/[^/?\\s]*)*"

/-- A word that may be empty. -/
def maybeEmpty : Spec :=
  Spec.of "MaybeEmpty" <|
    "(?<word>[a-z]*)"

/-- One of two letters. -/
def either : Spec :=
  Spec.of "Either" <|
    "(?<a>a)|(?<b>b)"

/-- A line, whatever ends it. -/
def crlfLine : Spec :=
  let pattern :=
    "^(?<line>.*)$"
  (Spec.of "CrlfLine" pattern).withOptions ((Options.standard.set .multiLine true).set .crlf true)

/-- A tag, up to the first mark that closes it. -/
def lazyTag : Spec :=
  let pattern :=
    "<(?<tag>.+)>"
  (Spec.of "LazyTag" pattern).withOptions ((Options.standard.set .swapGreed true).set .dotMatchesNewLine true)

/-- A character by its number, and a word with a name beyond ASCII. -/
def octalAscii : Spec :=
  let pattern :=
    "(\\101)(?<été>\\w+)"
  (Spec.of "OctalAscii" pattern).withOptions ((Options.standard.set .octal true).set .unicode false)

/-- All example matchers. -/
def matchers : List Spec :=
  [testOne, isoDate, githubUsername, urlRegex,
   semver, logLine, keyValue, numberPattern, pair, hello,
   segments, maybeEmpty, either, crlfLine, lazyTag, octalAscii]

/-- The example matcher with a name. -/
def matcher? (typeName : String) : Option Spec := matchers.find? fun s => s.typeName == typeName

end CaptureTypes.Example
