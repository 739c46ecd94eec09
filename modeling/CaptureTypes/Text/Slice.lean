/-
# Parts of a text by bytes

Ranges count the bytes of a text in UTF-8.  `dropBytes` and `takeBytes` cut
a text at a number of bytes; a cut inside a character moves to its end when
dropping and to its start when taking.
-/

namespace CaptureTypes.Text

/-- The bytes of a text. -/
def byteLength : List Char → Nat
  | [] => 0
  | c :: rest => c.utf8Size + byteLength rest

/-- A text without a number of bytes at its start. -/
def dropBytes : Nat → List Char → List Char
  | _, [] => []
  | n, c :: rest => if n = 0 then c :: rest else dropBytes (n - c.utf8Size) rest

/-- A number of bytes at the start of a text. -/
def takeBytes : Nat → List Char → List Char
  | _, [] => []
  | n, c :: rest => if n < c.utf8Size then [] else c :: takeBytes (n - c.utf8Size) rest

/-- The part of a text between two numbers of bytes. -/
def slice (start stop : Nat) (cs : List Char) : List Char :=
  takeBytes (stop - start) (dropBytes start cs)

end CaptureTypes.Text
