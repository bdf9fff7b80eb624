import NaturalDeduction.Number.Digits
import NaturalDeduction.Yaml.Cursor
import NaturalDeduction.Yaml.Token

/-!
# Names, tags and instructions

The tokens that are read from a name: the name of an anchor, a tag with its handle, and the
instructions before a document, of which two have an effect. Each function goes through the text
from a position and returns the token and the position after it, or nothing if the form is not met.
-/

namespace NaturalDeduction.Yaml

/-- The signs that may follow the name of an anchor, beside gaps. -/
def anchorEnds : List Char :=
  ['?', ':', ',', ']', '\x7d', '%', '@', '\x60']

/-- The name of an anchor or an alias; the position is after its sign. -/
def anchorName? (c : Cursor) : Option (String × Cursor) :=
  let (name, c) := c.span isNameChar
  let ends :=
    match c.rest with
    | [] => true
    | ch :: _ => isGap ch || anchorEnds.contains ch
  if name.isEmpty || !ends then none else some (String.ofList name, c)

/-! ## Addresses -/

/-- The octets at a position that are given by percent signs and two hexadecimal digits each. -/
def percentOctets : (fuel : Nat) → Cursor → Option (List Nat × Cursor)
  | 0, _ => none
  | fuel + 1, c =>
    match c.rest with
    | '%' :: a :: b :: _ => do
      let n ← Digits.ofDigits? 16 [a, b]
      let (ns, c) ← percentOctets fuel (c.advance 3)
      some (n :: ns, c)
    | '%' :: _ => none
    | _ => some ([], c)

/-- The text that octets encode. -/
def textOfOctets? (octets : List Nat) : Option (List Char) :=
  (String.fromUTF8? ⟨(octets.map UInt8.ofNat).toArray⟩).map String.toList

/-- The characters of an address; there may be none. -/
def addressChars : (fuel : Nat) → Cursor → Option (List Char × Cursor)
  | 0, _ => none
  | fuel + 1, c =>
    match c.rest with
    | [] => some ([], c)
    | ch :: _ =>
      if ch == '%' then do
        let (octets, c) ← percentOctets fuel c
        let decoded ← textOfOctets? octets
        let (s, c) ← addressChars fuel c
        some (decoded ++ s, c)
      else if isAddressChar ch then do
        let (s, c) ← addressChars fuel c.next
        some (ch :: s, c)
      else some ([], c)

/-- An address at a position. -/
def address? (fuel : Nat) (c : Cursor) : Option (String × Cursor) := do
  let (s, c) ← addressChars fuel c
  if s.isEmpty then none else some (String.ofList s, c)

/-! ## Tags -/

/-- A handle at a position: an exclamation mark by itself before a space, or a name between two
exclamation marks, which may be empty. -/
def handle? (c : Cursor) : Option (String × Cursor) :=
  match c.rest with
  | '!' :: ' ' :: _ => some ("!", c.next)
  | '!' :: _ =>
    let (name, c) := c.next.span isNameChar
    if c.rest.head? == some '!' then some (String.ofList ('!' :: (name ++ ['!'])), c.next) else none
  | _ => none

/-- Whether an exclamation mark comes before the next space or break. -/
def hasMarkAhead (s : List Char) : Bool :=
  (s.takeWhile fun ch => ch != ' ' && !isBreak ch).contains '!'

/-- A tag; the position is at its exclamation mark. -/
def tag? (fuel : Nat) (c : Cursor) : Option (TagName × Cursor) := do
  let after := c.rest.drop 1
  let (name, c) ←
    if after.head? == some '<' then do
      let (s, c) ← address? fuel (c.advance 2)
      if c.rest.head? == some '>' then some (⟨none, s⟩, c.next) else none
    else if startsWithGap after then some (⟨none, "!"⟩, c.next)
    else do
      let (handle, c) ← if hasMarkAhead after then handle? c else some ("!", c.next)
      let (s, c) ← address? fuel c
      some ((⟨some handle, s⟩ : TagName), c)
  if startsWithSpace c.rest then some (name, c) else none

/-! ## Instructions -/

/-- A decimal number at a position. -/
def number? (c : Cursor) : Option (Nat × Cursor) := do
  let (digits, c) := c.span Char.isDigit
  some (← Digits.ofDigits? 10 digits, c)

/-- An instruction; the position is after its percent sign. The rest of its line may hold a comment
alone. -/
def instruction? (fuel : Nat) (c : Cursor) : Option (Token × Cursor) := do
  let (name, c) := c.span isNameChar
  if name.isEmpty || !startsWithSpace c.rest then none
  else
    let spaced := c.skip (· == ' ')
    let (token, c) ←
      match String.ofList name with
      | "YAML" => do
        let (major, c) ← number? spaced
        if c.rest.head? != some '.' then none
        else
          let (_, c) ← number? c.next
          if startsWithSpace c.rest then some (Token.version major, c) else none
      | "TAG" => do
        let (handle, c) ← handle? spaced
        if c.rest.head? != some ' ' then none
        else
          let (meaning, c) ← address? fuel (c.skip (· == ' '))
          if startsWithSpace c.rest then some (Token.handle handle meaning, c) else none
      | _ => some (Token.instruction, c.skip fun ch => !isBreak ch)
    some (token, ← c.restOfLine?)

end NaturalDeduction.Yaml
