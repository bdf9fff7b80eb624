/-!
# Binary floating-point numbers

A number of the binary grid with 53 significant bits is a whole number of at most 53 bits times a
power of two (`Binary64.finite`); beside these there are two infinities and a value that is no
number. A quotient is rounded to the nearest number of the grid, and a half goes to the even
neighbour (`Binary64.ofQuotient`). All arithmetic is exact arithmetic on quotients followed by one
rounding.

The size of a number, apart from the sign of zero, is an `Extent`, in which also whole numbers of
any length have their place. Comparison is exact (`Extent.lt`).
-/

namespace NaturalDeduction

/-! ## Sizes -/

/-- The size of a number: a quotient, infinite, or undefined. -/
inductive Extent where
  /-- The quotient of a whole number by a positive one. -/
  | quotient (num : Int) (den : Nat)
  /-- Beyond all quotients, above or below. -/
  | infinite (negative : Bool)
  /-- Not a size. -/
  | undefined

namespace Extent

/-- The size of a whole number. -/
def ofInt (n : Int) : Extent :=
  .quotient n 1

/-- Whether a size is less than another. What is undefined is not less than anything. -/
def lt : Extent → Extent → Bool
  | .quotient a b, .quotient c d => decide (a * (d : Int) < c * (b : Int))
  | .quotient _ _, .infinite negative => !negative
  | .infinite negative, .quotient _ _ => negative
  | .infinite negative, .infinite negative' => negative && !negative'
  | _, _ => false

/-- Whether two sizes are the same. What is undefined is not even the same as itself. -/
def same : Extent → Extent → Bool
  | .quotient a b, .quotient c d => a * (d : Int) == c * (b : Int)
  | .infinite negative, .infinite negative' => negative == negative'
  | _, _ => false

/-- The greatest whole number that is not greater, for a finite size. -/
def floor? : Extent → Option Int
  | .quotient a b => some (Int.fdiv a (b : Int))
  | _ => none

/-- Whole numbers are compared as they are. -/
@[simp]
theorem lt_ofInt (m n : Int) : lt (ofInt m) (ofInt n) = decide (m < n) := by
  simp [lt, ofInt]

end Extent

/-! ## Numbers of the grid -/

/-- A number of the binary grid with 53 significant bits. -/
inductive Binary64 where
  /-- The number `mantissa * 2 ^ exponent` with a sign. -/
  | finite (negative : Bool) (mantissa : Nat) (exponent : Int)
  /-- An infinity. -/
  | infinity (negative : Bool)
  /-- Not a number. -/
  | nan
deriving DecidableEq

namespace Binary64

/-- The least exponent. -/
def leastExponent : Int := -1074

/-- The greatest exponent. -/
def greatestExponent : Int := 971

/-- The number of significant bits. -/
def precision : Nat := 53

/-- Zero. -/
def zero (negative : Bool) : Binary64 :=
  .finite negative 0 leastExponent

/-- The quotient of `num` by `den`, which is positive, to the nearest whole number, where a half
goes to the even neighbour. -/
def roundQuotient (num den : Nat) : Nat :=
  let q := num / den
  let twice := 2 * (num % den)
  if twice < den then q
  else if den < twice then q + 1
  else if q % 2 = 0 then q else q + 1

/-- A quotient divided by a power of two. -/
def scaleDown (num den : Nat) (exponent : Int) : Nat × Nat :=
  if 0 ≤ exponent then (num, den * Nat.pow 2 exponent.toNat)
  else (num * Nat.pow 2 (-exponent).toNat, den)

/-- The exponent with which the quotient of two positive numbers has all significant bits before the
point, if there is one, and else the least exponent. -/
def exponentOf (num den : Nat) : Int :=
  let guess := (Nat.log2 num : Int) - (Nat.log2 den : Int) - (precision - 1 : Nat)
  let (n, d) := scaleDown num den guess
  let exponent := if n < d * Nat.pow 2 (precision - 1) then guess - 1 else guess
  max exponent leastExponent

/-- The number nearest to the quotient of `num` by `den`, which is positive. -/
def ofQuotient (negative : Bool) (num den : Nat) : Binary64 :=
  if num = 0 then zero negative
  else
    let exponent := exponentOf num den
    let (n, d) := scaleDown num den exponent
    let mantissa := roundQuotient n d
    let (mantissa, exponent) :=
      if mantissa = Nat.pow 2 precision then (Nat.pow 2 (precision - 1), exponent + 1)
      else (mantissa, exponent)
    if greatestExponent < exponent then .infinity negative
    else .finite negative mantissa exponent

/-- The number nearest to a whole number. -/
def ofInt (n : Int) : Binary64 :=
  ofQuotient (decide (n < 0)) n.natAbs 1

/-- The number nearest to `digits * 10 ^ exponent`. Powers that are far out of the range of the grid
are not computed. -/
def ofDecimal (negative : Bool) (digits : Nat) (exponent : Int) : Binary64 :=
  if digits = 0 then zero negative
  else
    let order := exponent + (Nat.toDigits 10 digits).length
    if 400 < order then .infinity negative
    else if order < -400 then zero negative
    else if 0 ≤ exponent then ofQuotient negative (digits * Nat.pow 10 exponent.toNat) 1
    else ofQuotient negative digits (Nat.pow 10 (-exponent).toNat)

/-- The size of a number. -/
def extent : Binary64 → Extent
  | .finite negative mantissa exponent =>
    let (num, den) := scaleDown mantissa 1 (-exponent)
    .quotient (if negative then -(num : Int) else num) den
  | .infinity negative => .infinite negative
  | .nan => .undefined

/-- Whether a number is zero. -/
def isZero : Binary64 → Bool
  | .finite _ mantissa _ => mantissa == 0
  | _ => false

/-- The number nearest to a size. -/
def ofExtent : Extent → Binary64
  | .quotient num den => ofQuotient (decide (num < 0)) num.natAbs den
  | .infinite negative => .infinity negative
  | .undefined => .nan

/-- Multiplication of the size by another one. -/
def mul (x y : Binary64) : Binary64 :=
  match x.extent, y.extent with
  | .quotient a b, .quotient c d => ofExtent (.quotient (a * c) (b * d))
  | _, _ => .nan

/-- Division by a number that is not zero. -/
def div (x y : Binary64) : Binary64 :=
  match x.extent, y.extent with
  | .quotient a b, .quotient c d =>
    if c = 0 then .nan
    else ofExtent (.quotient (a * (d : Int) * c.sign) (b * c.natAbs))
  | .infinite negative, .quotient c _ => .infinity (negative != decide (c < 0))
  | _, _ => .nan

/-- Addition. -/
def add (x y : Binary64) : Binary64 :=
  match x.extent, y.extent with
  | .quotient a b, .quotient c d => ofExtent (.quotient (a * (d : Int) + c * (b : Int)) (b * d))
  | .infinite negative, .quotient _ _ => .infinity negative
  | .quotient _ _, .infinite negative => .infinity negative
  | .infinite negative, .infinite negative' =>
    if negative = negative' then .infinity negative else .nan
  | _, _ => .nan

/-- The number with the other sign. -/
def neg : Binary64 → Binary64
  | .finite negative mantissa exponent => .finite (!negative) mantissa exponent
  | .infinity negative => .infinity (!negative)
  | .nan => .nan

/-- Subtraction. -/
def sub (x y : Binary64) : Binary64 :=
  x.add y.neg

/-- The whole part of a number, towards zero. -/
def truncate? (x : Binary64) : Option Int :=
  match x.extent with
  | .quotient a b => some (Int.tdiv a (b : Int))
  | _ => none

end Binary64

end NaturalDeduction
