import NaturalDeduction.Number.Binary64

/-!
# The shortest text of a floating-point number

A number of the binary grid is written with the fewest decimal digits that read back as the same
number; of several such texts the nearest one is taken, and of two equally near ones that with the
even last digit (`Binary64.shortest`). The point stands among the digits if the power of ten of the
first one is at least -4 and less than 16, and otherwise the power is written after the digits
(`Binary64.text`).
-/

namespace NaturalDeduction.Binary64

/-- A positive quotient. -/
structure Ratio where
  /-- The numerator. -/
  num : Nat
  /-- The denominator. -/
  den : Nat

namespace Ratio

/-- Whether a quotient is less than another. -/
def lt (r s : Ratio) : Bool :=
  decide (r.num * s.den < s.num * r.den)

/-- A quotient with a denominator of one. -/
def ofNat (n : Nat) : Ratio :=
  ⟨n, 1⟩

/-- A quotient times a power of a base. -/
def shift (r : Ratio) (base : Nat) (exponent : Int) : Ratio :=
  if 0 ≤ exponent then ⟨r.num * Nat.pow base exponent.toNat, r.den⟩
  else ⟨r.num, r.den * Nat.pow base (-exponent).toNat⟩

end Ratio

/-- The quotients that are rounded to one number of the grid: those between two ends, which belong
to it or not. -/
structure Basin where
  /-- The lower end. -/
  low : Ratio
  /-- The upper end. -/
  high : Ratio
  /-- Whether the ends belong to it. -/
  closed : Bool

namespace Basin

/-- Whether a quotient is in the basin. -/
def contains (b : Basin) (r : Ratio) : Bool :=
  if b.closed then !r.lt b.low && !b.high.lt r else b.low.lt r && r.lt b.high

/-- The basin of `mantissa * 2 ^ exponent`. The numbers below a power of two are closer together
than those above it. -/
def of (mantissa : Nat) (exponent : Int) : Basin :=
  let atPower := mantissa = Nat.pow 2 (precision - 1) ∧ leastExponent < exponent
  { low :=
      if atPower then (Ratio.ofNat (4 * mantissa - 1)).shift 2 (exponent - 2)
      else (Ratio.ofNat (2 * mantissa - 1)).shift 2 (exponent - 1)
    high := (Ratio.ofNat (2 * mantissa + 1)).shift 2 (exponent - 1)
    closed := mantissa % 2 = 0 }

end Basin

/-- The decimal number `digits * 10 ^ exponent`. -/
structure Decimal where
  /-- The digits as a number. -/
  digits : Nat
  /-- The power of ten of the last digit. -/
  exponent : Int

/-- The nearer one to `r` of two decimal grid points, given as multiples of a unit, where `r` lies
between `down` and `down + 1` and `twice` says how twice the distance from below compares with the
unit. -/
def nearer (down : Nat) (twice : Ordering) : Nat :=
  match twice with
  | .lt => down
  | .gt => down + 1
  | .eq => if down % 2 = 0 then down else down + 1

/-- The grid point for the power `exponent` of ten that is in a basin and nearest to `r`, if one of
the two neighbours of `r` is in it. -/
def gridPoint? (b : Basin) (r : Ratio) (exponent : Int) : Option Decimal :=
  let scaled := r.shift 10 (-exponent)
  let down := scaled.num / scaled.den
  let rest := scaled.num % scaled.den
  let inBasin (n : Nat) : Bool := b.contains ((Ratio.ofNat n).shift 10 exponent)
  let first := nearer down (compare (2 * rest) scaled.den)
  let second := if first = down then down + 1 else down
  if inBasin first then some ⟨first, exponent⟩
  else if inBasin second then some ⟨second, exponent⟩
  else none

/-- The power of ten of the first digit of a positive quotient, from the digits of its parts. -/
def orderOf (r : Ratio) : Int :=
  let guess := ((Nat.toDigits 10 r.num).length : Int) - ((Nat.toDigits 10 r.den).length : Int)
  if r.lt ((Ratio.ofNat 1).shift 10 guess) then guess - 1 else guess

/-- The first grid point in a basin, from `order - places` downwards, for `count` grids. -/
def firstGridPoint (b : Basin) (r : Ratio) (order : Int) : (places count : Nat) → Decimal
  | places, 0 => (gridPoint? b r (order - places)).getD ⟨0, 0⟩
  | places, count + 1 =>
    match gridPoint? b r (order - places) with
    | some d => d
    | none => firstGridPoint b r order (places + 1) count

/-- The shortest decimal number that is read back as `mantissa * 2 ^ exponent`, which is positive.
Seventeen digits are always enough. -/
def shortest (mantissa : Nat) (exponent : Int) : Decimal :=
  let r := (Ratio.ofNat mantissa).shift 2 exponent
  firstGridPoint (.of mantissa exponent) r (orderOf r) 0 17

/-- Digits without the zeros at the end, with the number of these. -/
def trimZeros (digits : List Char) : List Char × Nat :=
  let kept := (digits.reverse.dropWhile (· = '0')).reverse
  (kept, digits.length - kept.length)

/-- A power of ten after the digits: the sign, and at least two digits. -/
def exponentText (n : Int) : List Char :=
  let digits := Nat.toDigits 10 n.natAbs
  let padded := if digits.length < 2 then '0' :: digits else digits
  'e' :: (if n < 0 then '-' else '+') :: padded

/-- The text of a decimal number. -/
def decimalText (d : Decimal) : List Char :=
  let (digits, zeros) := trimZeros (Nat.toDigits 10 d.digits)
  let last := d.exponent + zeros
  let order := last + digits.length - 1
  if -4 ≤ order ∧ order < 16 then
    if 0 ≤ last then digits ++ List.replicate last.toNat '0' ++ ['.', '0']
    else if 0 ≤ order then
      digits.take (order + 1).toNat ++ '.' :: digits.drop (order + 1).toNat
    else '0' :: '.' :: (List.replicate (-order - 1).toNat '0' ++ digits)
  else
    match digits with
    | [c] => c :: exponentText order
    | c :: cs => c :: '.' :: (cs ++ exponentText order)
    | [] => exponentText order

/-- The text of a number. -/
def text : Binary64 → String
  | .finite negative mantissa exponent =>
    let body := if mantissa = 0 then ['0', '.', '0'] else decimalText (shortest mantissa exponent)
    String.ofList (if negative then '-' :: body else body)
  | .infinity negative => if negative then "-inf" else "inf"
  | .nan => "nan"

end NaturalDeduction.Binary64
