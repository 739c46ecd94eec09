/-
# Names

A name is a word that no keyword is, a raw word included.  `name?` reads a
text that holds one name and nothing else but blanks and comments.
-/
import CaptureTypes.Token.Lexer

namespace CaptureTypes.Token

/-- The words that are no names. -/
def keywords : List String :=
  ["_", "abstract", "as", "async", "await", "become", "box", "break", "const", "continue", "crate",
   "do", "dyn", "else", "enum", "extern", "false", "final", "fn", "for", "if", "impl", "in", "let",
   "loop", "macro", "match", "mod", "move", "mut", "override", "priv", "pub", "ref", "return",
   "Self", "self", "static", "struct", "super", "trait", "true", "try", "type", "typeof", "unsafe",
   "unsized", "use", "virtual", "where", "while", "yield"]

/-- Whether a word may be a name. -/
def isName (s : String) : Bool := !keywords.contains s

/-- The one word in a text, with nothing but blanks and comments around it. -/
def onlyWord? (cs : List Char) : Option (List Char) := do
  let (text, rest) ← word? (afterBlanks (withoutMark cs))
  if afterBlanks rest = [] then some text else none

/-- The name in a text that holds nothing else. -/
def name? (text : String) : Option String := do
  let found := String.ofList (← onlyWord? text.toList)
  if isName found then some found else none

end CaptureTypes.Token
