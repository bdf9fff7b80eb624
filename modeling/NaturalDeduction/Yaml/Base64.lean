/-!
# Octets by letters

Four letters of an alphabet of 64 stand for three octets. Characters that are not in the alphabet
are passed over. At the end one or two letters may be replaced by equality signs, after which
nothing is read.
-/

namespace NaturalDeduction.Yaml.Base64

/-- The value of a letter. -/
def valueOf? (c : Char) : Option Nat :=
  if c.isUpper then some (c.toNat - 'A'.toNat)
  else if c.isLower then some (c.toNat - 'a'.toNat + 26)
  else if c.isDigit then some (c.toNat - '0'.toNat + 52)
  else if c == '+' then some 62
  else if c == '/' then some 63
  else none

/-- The octets of a text. `place` counts the letters of the group of four in progress, `left` is
what the last letter left over, and `signs` counts the equality signs after it. -/
def decodeFrom : (place left signs : Nat) → List Char → Option (List Nat)
  | place, _, _, [] => if place = 0 then some [] else none
  | place, left, signs, c :: s =>
    if c == '=' then
      if 2 ≤ place ∧ 4 ≤ place + signs + 1 then some []
      else decodeFrom place left (if 2 ≤ place then signs + 1 else signs) s
    else
      match valueOf? c with
      | none => decodeFrom place left signs s
      | some n =>
        match place with
        | 0 => decodeFrom 1 n 0 s
        | 1 => (decodeFrom 2 (n % 16) 0 s).map ((left * 4 + n / 16) :: ·)
        | 2 => (decodeFrom 3 (n % 4) 0 s).map ((left * 16 + n / 4) :: ·)
        | _ => (decodeFrom 0 0 0 s).map ((left * 64 + n) :: ·)

/-- The octets that a text stands for. A text with characters beyond the first 128 stands for none.
-/
def decode (s : List Char) : Option (List Nat) :=
  if s.all fun c => c.toNat < 128 then decodeFrom 0 0 0 s else none

end NaturalDeduction.Yaml.Base64
