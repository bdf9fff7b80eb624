import NaturalDeduction.Text.Hidden

/-!
# Quoted text

Messages show a text between quotation marks, in such a way that every character can be seen. The
mark is the apostrophe, unless the text holds an apostrophe and no double mark (`mark`). Inside, the
mark in use and the backslash follow a backslash, three line characters have letters of their own,
and a character that cannot be shown is given by its number (`escape`).
-/

namespace NaturalDeduction.Text

/-- The apostrophe. -/
def apostrophe : Char := '\x27'

/-- The double quotation mark. -/
def doubleMark : Char := '\x22'

/-- The backslash. -/
def backslash : Char := '\x5c'

/-- The last `width` hexadecimal digits of a number, in lower case. -/
def hexDigits : (width n : Nat) → List Char
  | 0, _ => []
  | width + 1, n => hexDigits width (n / 16) ++ [Nat.digitChar (n % 16)]

/-- A character by its number, with two, four or eight digits. -/
def numbered (c : Char) : List Char :=
  let n := c.toNat
  if n ≤ 0xFF then backslash :: 'x' :: hexDigits 2 n
  else if n ≤ 0xFFFF then backslash :: 'u' :: hexDigits 4 n
  else backslash :: 'U' :: hexDigits 8 n

/-- A character inside the quotation mark `mark`. -/
def escape (mark c : Char) : List Char :=
  if c = mark ∨ c = backslash then [backslash, c]
  else if c = '\n' then [backslash, 'n']
  else if c = '\r' then [backslash, 'r']
  else if c = '\t' then [backslash, 't']
  else if isShown c then [c]
  else numbered c

/-- The mark for a text: the double one if that spares the apostrophes their backslashes. -/
def mark (s : List Char) : Char :=
  if s.contains apostrophe && !s.contains doubleMark then doubleMark else apostrophe

/-- A text between quotation marks. -/
def quotedChars (s : List Char) : List Char :=
  mark s :: (s.flatMap (escape (mark s)) ++ [mark s])

/-- A text between quotation marks, as a string. -/
def quoted (s : String) : String :=
  String.ofList (quotedChars s.toList)

/-- An octet inside the quotation mark `mark`, where only the characters up to 127 are shown. -/
def escapeOctet (mark : Char) (n : Nat) : List Char :=
  if n < 128 then escape mark (Char.ofNat n) else backslash :: 'x' :: hexDigits 2 n

/-- Octets between quotation marks, with a letter in front that tells them from a text. -/
def quotedOctets (octets : List Nat) : String :=
  let m := mark (octets.map Char.ofNat)
  String.ofList ('b' :: m :: (octets.flatMap (escapeOctet m) ++ [m]))

end NaturalDeduction.Text
