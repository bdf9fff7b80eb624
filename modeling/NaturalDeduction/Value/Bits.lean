import NaturalDeduction.Error
import NaturalDeduction.Value.Order

/-!
# Operator signs between values

The signs that put formulas together have a meaning of their own between other values. Between whole
numbers they work on the binary digits, where a negative number is the complement of a number that
is not negative (`Bits.and`, `Bits.or`, `Bits.shiftRight`, `Bits.shiftLeft`); between two truth
values the first two stay among the truth values; and the sign of disjunction joins two records.
Other values have no such operation.
-/

namespace NaturalDeduction

namespace Bits

/-- The complement: every binary digit is exchanged. -/
def complement (n : Int) : Int :=
  -n - 1

/-- The digits of a number that another does not have. -/
def without (a b : Nat) : Nat :=
  a - (a &&& b)

/-- The digits that two numbers have in common. -/
def and : Int → Int → Int
  | .ofNat a, .ofNat b => (a &&& b : Nat)
  | .ofNat a, .negSucc b => (without a b : Nat)
  | .negSucc a, .ofNat b => (without b a : Nat)
  | .negSucc a, .negSucc b => .negSucc (a ||| b)

/-- The digits that one of two numbers has. -/
def or : Int → Int → Int
  | .ofNat a, .ofNat b => (a ||| b : Nat)
  | .ofNat a, .negSucc b => .negSucc (without b a)
  | .negSucc a, .ofNat b => .negSucc (without a b)
  | .negSucc a, .negSucc b => .negSucc (a &&& b)

/-- A natural number without its last `n` digits. Powers beyond the number are not computed. -/
def dropDigits (a n : Nat) : Nat :=
  if Nat.log2 a < n then 0 else a / Nat.pow 2 n

/-- The number without its last `n` digits. -/
def shiftRight (a : Int) (n : Nat) : Int :=
  match a with
  | .ofNat a => (dropDigits a n : Nat)
  | .negSucc a => .negSucc (dropDigits a n)

/-- The number with `n` more digits, which are zero. -/
def shiftLeft (a : Int) (n : Nat) : Int :=
  a * (Nat.pow 2 n : Nat)

end Bits

namespace Value

/-- The sign of negation before a value: a whole number has a complement. -/
def signNot (v : Value) : Except Error Value :=
  match v.toInt? with
  | some n => .ok (.int (Bits.complement n))
  | none => .error .wrongKind

/-- The greatest number of digits by which a number can be made longer. -/
def greatestShift : Int := 10000000

/-- A shift between two values, to the left or to the right. -/
def shift (left : Bool) (v w : Value) : Except Error Value :=
  match v.toInt?, w.toInt? with
  | some a, some n =>
    if n < 0 then .error .negativeShift
    else if !left then .ok (.int (Bits.shiftRight a n.toNat))
    else if a = 0 then .ok (.int 0)
    else if greatestShift < n then .error .numberTooLong
    else .ok (.int (Bits.shiftLeft a n.toNat))
  | _, _ => .error .wrongKind

/-- The sign of a connective between two values. The conditional has two signs, one for each
direction. -/
def signBinary (op : Connective) (swapped : Bool) (v w : Value) : Except Error Value :=
  match op, v, w with
  | .and, .bool a, .bool b => .ok (.bool (a && b))
  | .or, .bool a, .bool b => .ok (.bool (a || b))
  | .or, .record fields, .record others => .ok (.record (putAll fields others))
  | .implies, v, w => shift swapped v w
  | op, v, w =>
    match op, v.toInt?, w.toInt? with
    | .and, some a, some b => .ok (.int (Bits.and a b))
    | .or, some a, some b => .ok (.int (Bits.or a b))
    | _, _, _ => .error .wrongKind

end Value

end NaturalDeduction
