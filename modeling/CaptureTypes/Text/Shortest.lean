/-
# The shortest decimal that reads back

A binary number of double precision stands for an interval of reals that
all round to it.  For one digit, then two, and so on, the two neighbours of
the number among the decimals with so many digits are tested; the first
count at which one lies in the interval wins, and of two the nearer.  All
is done with natural numbers.
-/
import CaptureTypes.Text.Decimal

namespace CaptureTypes.Text

/-- A positive fraction. -/
structure Fraction where
  num : Nat
  den : Nat
deriving Repr

/-- `n · 2^e`. -/
def Fraction.scaled (n : Nat) (e : Int) : Fraction :=
  if e < 0 then ⟨n, Nat.pow 2 e.natAbs⟩ else ⟨n * Nat.pow 2 e.natAbs, 1⟩

/-- A fraction times a power of ten. -/
def Fraction.timesPower (f : Fraction) (e : Int) : Fraction :=
  if e < 0 then ⟨f.num, f.den * Nat.pow 10 e.natAbs⟩ else ⟨f.num * Nat.pow 10 e.natAbs, f.den⟩

/-- A number with the interval that rounds to it. -/
structure Rounding where
  value : Fraction
  low : Fraction
  high : Fraction
  closed : Bool
deriving Repr

/-- The number `m · 2^q` with its interval. Below a power of two the next number is half as
far away; the ends belong to the interval if `m` is even. -/
def Rounding.of (m : Nat) (q : Int) (belowIsNear : Bool) : Rounding where
  value := .scaled (4 * m) (q - 2)
  low := .scaled (if belowIsNear then 4 * m - 1 else 4 * m - 2) (q - 2)
  high := .scaled (4 * m + 2) (q - 2)
  closed := m % 2 = 0

/-- Whether a fraction lies in the interval. -/
def Rounding.holds (r : Rounding) (f : Fraction) : Bool :=
  let below (a b : Fraction) : Bool :=
    if r.closed then a.num * b.den ≤ b.num * a.den else a.num * b.den < b.num * a.den
  below r.low f && below f r.high

/-- The power of ten just above a fraction: the number of digits before the point, or minus
the number of zeros after it. -/
def magnitude (f : Fraction) : Int :=
  if f.den ≤ f.num then (decimal (f.num / f.den)).length
  else
    let rec zeros : Nat → Nat → Nat → Int
      | 0, n, _ => -(n : Int)
      | fuel + 1, n, num => if f.den ≤ num * 10 then -(n : Int) else zeros fuel (n + 1) (num * 10)
    zeros 400 0 f.num

/-- The digits, as one number, of the decimal of `count` digits that is nearest to a number
and rounds to it, if there is one. -/
def Rounding.digits? (r : Rounding) (k : Int) (count : Nat) : Option Nat :=
  let grid := (count : Int) - k
  let f := r.value.timesPower grid
  let down := f.num / f.den
  let up := down + 1
  let fits (n : Nat) : Bool := r.holds ((Fraction.mk n 1).timesPower (-grid))
  let upIsNearer := f.den < 2 * (f.num % f.den) ||
    (f.den = 2 * (f.num % f.den) && down % 2 = 1)
  match fits down, fits up with
  | true, true => some (if upIsNearer then up else down)
  | true, false => some down
  | false, true => some up
  | false, false => none

/-- The fewest digits that read back, and the power of ten that stands before them. -/
def Rounding.shortest (r : Rounding) : List Char × Int :=
  let k := magnitude r.value
  let rec search : Nat → Nat → List Char × Int
    | 0, count => (decimal ((r.digits? k count).getD 0), k)
    | fuel + 1, count =>
      match r.digits? k count with
      | some n =>
        let ds := decimal n
        let kept := (ds.reverse.dropWhile (· = '0')).reverse
        (kept, k + (ds.length : Int) - count)
      | none => search fuel (count + 1)
  search 17 1

/-- How a number is laid out: positional as long as the point stands among the digits or not
far before them, else with an exponent; a number without a fraction shows one zero. -/
def layout (ds : List Char) (k : Int) : List Char :=
  let n : Int := ds.length
  if 0 < k && k ≤ 16 then
    if n ≤ k then ds ++ List.replicate (k - n).toNat '0' ++ ['.', '0']
    else ds.take k.toNat ++ '.' :: ds.drop k.toNat
  else if -5 < k && k ≤ 0 then ['0', '.'] ++ List.replicate (-k).toNat '0' ++ ds
  else
    let e := k - 1
    let mantissa := match ds with
      | [] => ['0']
      | [d] => [d]
      | d :: rest => d :: '.' :: rest
    mantissa ++ 'e' :: (if e < 0 then '-' else '+') :: decimal e.natAbs

/-- A finite number of double precision as text. -/
def floatText (x : Float) : List Char :=
  let bits : Nat := x.toBits.toNat
  let negative : Bool := bits / Nat.pow 2 63 = 1
  let exponent : Nat := bits / Nat.pow 2 52 % Nat.pow 2 11
  let fraction : Nat := bits % Nat.pow 2 52
  let magnitudeText :=
    if exponent = 0 && fraction = 0 then ['0', '.', '0']
    else
      let r := if exponent = 0 then Rounding.of fraction (-1074) false
        else Rounding.of (Nat.pow 2 52 + fraction) ((exponent : Int) - 1075)
          (fraction = 0 && 1 < exponent)
      let (ds, k) := r.shortest
      layout ds k
  if negative then '-' :: magnitudeText else magnitudeText

end CaptureTypes.Text
