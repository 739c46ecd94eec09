/-
# Places and spans of a pattern

A place counts what precedes it in three ways: characters, lines and the
characters of its own line.  Lines and columns start at 1, as in the
diagnostics that show them.  A span reaches from one place up to another.
-/

namespace CaptureTypes.Pattern

/-- A place between two characters of a text. -/
structure Place where
  offset : Nat
  line : Nat
  column : Nat
deriving DecidableEq, Repr, Inhabited

namespace Place

/-- The place before the first character. -/
def start : Place := ⟨0, 1, 1⟩

/-- The place after a character. -/
def after (p : Place) (c : Char) : Place :=
  if c = '\n' then ⟨p.offset + 1, p.line + 1, 1⟩ else ⟨p.offset + 1, p.line, p.column + 1⟩

end Place

/-- The characters between two places. -/
structure Span where
  start : Place
  stop : Place
deriving DecidableEq, Repr, Inhabited

/-- The span without characters at a place. -/
def Span.point (p : Place) : Span := ⟨p, p⟩

/-- Whether a span starts and stops on one line. -/
def Span.isOneLine (s : Span) : Bool := s.start.line == s.stop.line

end CaptureTypes.Pattern
