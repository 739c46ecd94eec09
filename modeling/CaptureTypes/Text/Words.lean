/-
# Words

A text as the list of its words: what stands between blanks and line ends.
-/

namespace CaptureTypes.Text

/-- The words of a text; `now` holds the word being read, the latest character first. -/
def wordsFrom (now : List Char) : List Char → List (List Char)
  | [] => if now.isEmpty then [] else [now.reverse]
  | c :: rest =>
    if c = ' ' || c = '\n' then
      if now.isEmpty then wordsFrom [] rest else now.reverse :: wordsFrom [] rest
    else wordsFrom (c :: now) rest

/-- The words of a text. -/
def words (cs : List Char) : List (List Char) := wordsFrom [] cs

end CaptureTypes.Text
