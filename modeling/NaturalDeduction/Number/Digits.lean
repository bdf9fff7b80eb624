/-!
# Digits

Numbers by their digits in a base of at most sixteen, where the digits from ten on are letters of
either case.
-/

namespace NaturalDeduction.Digits

/-- The value of a digit. -/
def valueOf? (c : Char) : Option Nat :=
  if c.isDigit then some (c.toNat - '0'.toNat)
  else if 'a' ≤ c ∧ c ≤ 'f' then some (c.toNat - 'a'.toNat + 10)
  else if 'A' ≤ c ∧ c ≤ 'F' then some (c.toNat - 'A'.toNat + 10)
  else none

/-- Whether a character is a digit in a base. -/
def isDigitIn (base : Nat) (c : Char) : Bool :=
  match valueOf? c with
  | some d => d < base
  | none => false

/-- The number with given digits. -/
def ofDigits (base : Nat) (digits : List Char) : Nat :=
  digits.foldl (fun n c => base * n + (valueOf? c).getD 0) 0

/-- The number with given digits, of which there is at least one. -/
def ofDigits? (base : Nat) (digits : List Char) : Option Nat :=
  if !digits.isEmpty && digits.all (isDigitIn base) then some (ofDigits base digits) else none

end NaturalDeduction.Digits
