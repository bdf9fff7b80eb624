/-!
# The characters of YAML documents

A document holds printable characters only (`isAdmitted`). Five characters break lines, and two of
these, the separators of lines and paragraphs, stay what they are inside a text, while the others
become a line feed (`isBreak`). The end of the document counts as a gap.
-/

namespace NaturalDeduction.Yaml

/-- The byte order mark, which has no width. -/
def byteOrderMark : Char := Char.ofNat 0xFEFF

/-- The next-line character. -/
def nextLine : Char := Char.ofNat 0x85

/-- The separator of lines. -/
def lineSeparator : Char := Char.ofNat 0x2028

/-- The separator of paragraphs. -/
def paragraphSeparator : Char := Char.ofNat 0x2029

/-- Whether a character may stand in a document. -/
def isAdmitted (c : Char) : Bool :=
  let n := c.toNat
  n == 0x09 || n == 0x0A || n == 0x0D || (0x20 ≤ n && n ≤ 0x7E) || n == 0x85 ||
    (0xA0 ≤ n && n ≤ 0xD7FF) || (0xE000 ≤ n && n ≤ 0xFFFD) || 0x10000 ≤ n

/-- Whether a character breaks a line. -/
def isBreak (c : Char) : Bool :=
  c == '\n' || c == '\r' || c == nextLine || c == lineSeparator || c == paragraphSeparator

/-- A space or a tabulator. -/
def isSpace (c : Char) : Bool :=
  c == ' ' || c == '\t'

/-- A space, a tabulator or a break. -/
def isGap (c : Char) : Bool :=
  isSpace c || isBreak c

/-- Whether a text begins with a gap or is at its end. -/
def startsWithGap : List Char → Bool
  | [] => true
  | c :: _ => isGap c

/-- Whether a text begins with a space or a break or is at its end. -/
def startsWithSpace : List Char → Bool
  | [] => true
  | c :: _ => c == ' ' || isBreak c

/-- Whether a text begins with a break or is at its end. -/
def startsWithBreak : List Char → Bool
  | [] => true
  | c :: _ => isBreak c

/-- A text without the line feed at its end, unless it is nothing else. -/
def withoutFinalBreak : List Char → List Char
  | [] => []
  | [c, '\n'] => [c]
  | c :: s => c :: withoutFinalBreak s

/-- The signs of lists and records inside a line. -/
def isFlowSign (c : Char) : Bool :=
  c == ',' || c == '[' || c == ']' || c == '\x7b' || c == '\x7d'

/-- The characters of names. -/
def isNameChar (c : Char) : Bool :=
  c.isAlphanum || c == '-' || c == '_'

/-- The signs of an address beside letters and digits. -/
def addressSigns : List Char :=
  ['-', ';', '/', '?', ':', '@', '&', '=', '+', '$', ',', '_', '.', '!', '~', '*', '\x27', '(', ')',
    '[', ']', '%']

/-- The characters of an address. -/
def isAddressChar (c : Char) : Bool :=
  c.isAlphanum || addressSigns.contains c

/-- Whether a text begins with the marks between documents, three dashes or three dots before a
gap. -/
def startsWithMarks : List Char → Bool
  | '-' :: '-' :: '-' :: s => startsWithGap s
  | '.' :: '.' :: '.' :: s => startsWithGap s
  | _ => false

end NaturalDeduction.Yaml
