import NaturalDeduction.Number.Binary64
import NaturalDeduction.Number.Digits
import NaturalDeduction.Text.Blank
import NaturalDeduction.Value
import NaturalDeduction.Yaml.Fault

/-!
# Numbers in YAML documents

A plain text is a whole number if it has one of five forms: binary, octal, decimal, hexadecimal, or
decimal with the sixtieths of a clock (`isInteger`). It is a floating-point number if it has a
point, or is an infinity or no number at all (`isFloat`). Low lines between the digits do not count.

Under a tag any text may be claimed to be a number, so reading a number is more liberal than these
forms, and may fail (`integer`, `float`).
-/

namespace NaturalDeduction.Yaml

/-- Digits in a base and low lines. -/
def areDigits (base : Nat) (s : List Char) : Bool :=
  s.all fun c => Digits.isDigitIn base c || c == '_'

/-- A text without a sign in front. -/
def withoutSign : List Char → List Char
  | '-' :: s => s
  | '+' :: s => s
  | s => s

/-- A part of a clock: one or two digits, the first of two below six. -/
def isSixtieth : List Char → Bool
  | [c] => c.isDigit
  | [c, d] => '0' ≤ c && c ≤ '5' && d.isDigit
  | _ => false

/-- A text cut at a character. -/
def cutAt (sep : Char) : List Char → List (List Char)
  | [] => [[]]
  | c :: s =>
    match cutAt sep s with
    | [] => [[c]]
    | part :: parts => if c == sep then [] :: part :: parts else (c :: part) :: parts

/-- Whether a text is a whole number without sign. -/
def isMagnitude (s : List Char) : Bool :=
  match s with
  | ['0'] => true
  | '0' :: 'b' :: c :: t => areDigits 2 (c :: t)
  | '0' :: 'x' :: c :: t => areDigits 16 (c :: t)
  | '0' :: t => areDigits 8 t
  | _ =>
    match cutAt ':' s with
    | (c :: t) :: parts => c.isDigit && areDigits 10 t && parts.all isSixtieth
    | _ => false

/-- Whether a text is a whole number. -/
def isInteger (s : List Char) : Bool :=
  isMagnitude (withoutSign s)

/-- An exponent with its sign, or nothing. -/
def isExponent : List Char → Bool
  | [] => true
  | e :: sign :: c :: t =>
    (e == 'e' || e == 'E') && (sign == '-' || sign == '+') && (c :: t).all Char.isDigit
  | _ => false

/-- Whether a text is digits and low lines up to an exponent. -/
def isFraction (s : List Char) : Bool :=
  isExponent (s.dropWhile fun c => c.isDigit || c == '_')

/-- Whether a text without sign is digits, a point and a fraction, where the digits may be those of
a clock, and then there is no exponent. -/
def isPointed (s : List Char) : Bool :=
  match cutAt ':' s with
  | [c :: t] =>
    let after := t.dropWhile fun d => d.isDigit || d == '_'
    match after with
    | '.' :: rest => c.isDigit && isFraction rest
    | _ => false
  | (c :: t) :: parts =>
    match parts.reverse with
    | last :: inner =>
      let whole := last.takeWhile (· != '.')
      let rest := last.drop whole.length
      c.isDigit && areDigits 10 t && inner.all isSixtieth && isSixtieth whole && !rest.isEmpty &&
        areDigits 10 (rest.drop 1)
    | [] => false
  | _ => false

/-- Whether a text is a floating-point number. -/
def isFloat (s : List Char) : Bool :=
  isPointed (withoutSign s) ||
    [".inf", ".Inf", ".INF"].contains (String.ofList (withoutSign s)) ||
    [".nan", ".NaN", ".NAN"].contains (String.ofList s) ||
    match s with
    | '.' :: c :: t => c.isDigit && isFraction t
    | _ => false

/-! ## Reading -/

/-- A text without blanks at its ends. -/
def trimmed (s : List Char) : List Char :=
  Text.dropBlanksEnd (s.dropWhile Text.isBlank)

/-- The mark of a base in front of digits. -/
def basePrefix? : Nat → Option (Char × Char)
  | 2 => some ('b', 'B')
  | 8 => some ('o', 'O')
  | 16 => some ('x', 'X')
  | _ => none

/-- Digits in a base, without the mark of the base if there is one. -/
def withoutBase (base : Nat) (s : List Char) : List Char :=
  match basePrefix? base, s with
  | some (lower, upper), '0' :: c :: t => if c == lower || c == upper then t else s
  | _, s => s

/-- The whole number that a text is in a base. -/
def signed (base : Nat) (s : List Char) : Except Fault Int :=
  let t := trimmed s
  let digits := withoutBase base (withoutSign t)
  match Digits.ofDigits? base digits with
  | some n =>
    if base = 10 ∧ Value.digitLimit < digits.length then
      .error (.tooManyDigits Value.digitLimit digits.length)
    else .ok (if t.head? == some '-' then -(n : Int) else n)
  | none => .error (.notInteger base s)

/-- The value of the parts of a clock, from the greatest to the least. -/
def sixtieths (parts : List Int) : Int :=
  parts.foldl (fun n part => 60 * n + part) 0

/-- The whole number without sign that a text is. -/
def magnitude (s : List Char) : Except Fault Int :=
  match s with
  | [] => .error .emptyNumber
  | ['0'] => .ok 0
  | '0' :: 'b' :: t => signed 2 t
  | '0' :: 'x' :: t => signed 16 t
  | '0' :: t => signed 8 ('0' :: t)
  | s =>
    if s.contains ':' then return sixtieths (← (cutAt ':' s).mapM (signed 10))
    else signed 10 s

/-- The whole number that a text is. -/
def integer (s : List Char) : Except Fault Int := do
  let s := s.filter (· != '_')
  let n ← magnitude (withoutSign s)
  return if s.head? == some '-' then -n else n

/-- An exponent as a number; without one it is zero. -/
def exponent? : List Char → Option Int
  | [] => some 0
  | 'e' :: t =>
    (Digits.ofDigits? 10 (withoutSign t)).map fun n =>
      if t.head? == some '-' then -(n : Int) else n
  | _ => none

/-- The floating-point number without sign that a text in lower case is. -/
def unsignedFloat? (negative : Bool) (s : List Char) : Option Binary64 :=
  if s == "inf".toList || s == "infinity".toList then some (.infinity negative)
  else if s == "nan".toList then some .nan
  else
    let whole := s.takeWhile Char.isDigit
    let rest := s.drop whole.length
    let (part, rest) :=
      match rest with
      | '.' :: t => (t.takeWhile Char.isDigit, t.dropWhile Char.isDigit)
      | t => ([], t)
    if whole.isEmpty && part.isEmpty then none
    else
      (exponent? rest).map fun e =>
        .ofDecimal negative (Digits.ofDigits 10 (whole ++ part)) (e - part.length)

/-- The floating-point number that a text in lower case is. -/
def signedFloat (s : List Char) : Except Fault Binary64 :=
  let t := trimmed s
  match unsignedFloat? (t.head? == some '-') (withoutSign t) with
  | some x => .ok x
  | none => .error (.notFloat s)

/-- The value of the parts of a clock, from the least to the greatest, where a part is worth `unit`
seconds. -/
def floatSixtieths : (unit : Int) → List Binary64 → Binary64 → Binary64
  | _, [], sum => sum
  | unit, x :: xs, sum => floatSixtieths (60 * unit) xs (sum.add (x.mul (.ofInt unit)))

/-- The floating-point number that a text is. -/
def float (s : List Char) : Except Fault Binary64 := do
  let s := (s.filter (· != '_')).map Char.toLower
  let t := withoutSign s
  let x ←
    if s.isEmpty then throw .emptyNumber
    else if t == ".inf".toList then pure (.infinity false)
    else if t == ".nan".toList then pure .nan
    else if t.contains ':' then do
      let parts ← (cutAt ':' t).mapM signedFloat
      pure (floatSixtieths 1 parts.reverse (.zero false))
    else signedFloat t
  return if s.head? == some '-' then x.neg else x

end NaturalDeduction.Yaml
