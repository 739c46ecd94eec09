/-
# Faults shown in their pattern

`report` quotes the pattern and marks the spans of a fault with carets in
the line below.  A pattern on several lines is shown between rules, each
line with its number; a span over several lines gets a sentence instead of
carets.
-/
import CaptureTypes.Pattern.Fault

namespace CaptureTypes.Pattern

/-- Drops the carriage return before a line feed. -/
def dropReturn (line : List Char) : List Char :=
  if line.getLast? = some '\r' then line.dropLast else line

/-- The lines of a text; what follows the last line feed counts unless it is empty. -/
def linesOf (now : List Char) : List Char → List (List Char)
  | [] => if now.isEmpty then [] else [now.reverse]
  | c :: rest => if c = '\n' then dropReturn now.reverse :: linesOf [] rest else linesOf (c :: now) rest

/-- Text repeated. -/
def blanks (n : Nat) (c : Char) : String := String.ofList (List.replicate n c)

/-- The carets for spans of one line, in order; `column` is how far the line of carets reaches. -/
def carets (column : Nat) : List Span → String
  | [] => ""
  | s :: rest =>
    let gap := (s.start.column - 1) - column
    let width := max 1 (s.stop.column - s.start.column)
    blanks gap ' ' ++ blanks width '^' ++ carets (column + gap + width) rest

/-- Number of lines on which a span can lie. -/
def lineCount (pattern : List Char) : Nat :=
  (linesOf [] pattern).length + (if pattern.getLast? = some '\n' then 1 else 0)

/-- The width of the line numbers, none for a single line. -/
def numberWidth (pattern : List Char) : Nat :=
  if lineCount pattern ≤ 1 then 0 else (toString (lineCount pattern)).length

/-- What stands before the first character of a numbered line. -/
def margin (width number : Nat) : String :=
  if width = 0 then "    "
  else
    let digits := toString number
    blanks (width - digits.length) ' ' ++ digits ++ ": "

/-- The spans in the order of their places. -/
def inOrder (spans : List Span) : List Span :=
  spans.mergeSort fun s t =>
    decide (s.start.offset < t.start.offset ∨
      (s.start.offset = t.start.offset ∧ s.stop.offset ≤ t.stop.offset))

/-- The lines with the carets of the spans that lie on them. -/
def quoted (width : Nat) (spans : List Span) (number : Nat) : List (List Char) → String
  | [] => ""
  | line :: rest =>
    let here := spans.filter fun s => s.isOneLine && s.start.line == number
    let marks :=
      if here.isEmpty then "" else
        blanks (if width = 0 then 4 else width + 2) ' ' ++ carets 0 here ++ "\n"
    margin width number ++ String.ofList line ++ "\n" ++ marks ++ quoted width spans (number + 1) rest

/-- The sentence for a span over several lines. -/
def acrossLines (s : Span) : String :=
  "on line " ++ toString s.start.line ++ " (column " ++ toString s.start.column ++
    ") through line " ++ toString s.stop.line ++ " (column " ++ toString (s.stop.column - 1) ++ ")"

/-- The fault as text, under the pattern that has it. -/
def report (pattern : List Char) (f : Fault) : String :=
  let spans := inOrder f.spans
  let body := quoted (numberWidth pattern) spans 1 (linesOf [] pattern)
  let rule := blanks 79 '~' ++ "\n"
  let notes := (spans.filter fun s => !s.isOneLine).map fun s => acrossLines s ++ "\n"
  if pattern.contains '\n' then
    "regex parse error:\n" ++ rule ++ body ++ rule ++ String.join notes ++ "error: " ++ f.cause.text
  else "regex parse error:\n" ++ body ++ "error: " ++ f.cause.text

end CaptureTypes.Pattern
