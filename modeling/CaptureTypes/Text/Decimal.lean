/-
# Numbers as text

Decimal and hexadecimal digits of a natural number, without leading zeros.
-/

namespace CaptureTypes.Text

/-- The digit of a number below 36, in small letters from ten on. -/
def digitChar (n : Nat) : Char :=
  if n < 10 then Char.ofNat (48 + n) else Char.ofNat (87 + n)

/-- The digits of a number in a base, the last one first; `fuel` bounds their count. -/
def digitsRev (base : Nat) : Nat → Nat → List Char
  | 0, _ => []
  | fuel + 1, n => digitChar (n % base) :: if n / base = 0 then [] else digitsRev base fuel (n / base)

/-- The decimal digits of a number. -/
def decimal (n : Nat) : List Char := (digitsRev 10 (n + 1) n).reverse

/-- The hexadecimal digits of a number. -/
def hexadecimal (n : Nat) : List Char := (digitsRev 16 (n + 1) n).reverse

end CaptureTypes.Text
