/-!
# Blank characters

Formulas and rule names may be spread out with blanks, and English sentences are divided by them.
This file fixes which characters are blank (`isBlank`) and the four things that are done with them:
removing all of them (`removeBlanks`), dropping those at the end (`dropBlanksEnd`), skipping those
at the front (`List.dropWhile isBlank`) and cutting a text into the words between them (`words`).

The two characters that look blank and are not, the zero-width space and the byte order mark, have
no width of their own and stay in the text.
-/

namespace NaturalDeduction.Text

/-- The white-space characters of every script: tabulators and line ends, the separators of
information units, the space and the spaces of fixed width. -/
def isBlank (c : Char) : Bool :=
  let n := c.toNat
  (0x09 ≤ n && n ≤ 0x0D) || (0x1C ≤ n && n ≤ 0x20) || n == 0x85 || n == 0xA0 || n == 0x1680 ||
    (0x2000 ≤ n && n ≤ 0x200A) || n == 0x2028 || n == 0x2029 || n == 0x202F || n == 0x205F ||
    n == 0x3000

/-- The text without its blanks. -/
def removeBlanks (s : List Char) : List Char :=
  s.filter fun c => !isBlank c

/-- The text up to its last character that is not blank. -/
def dropBlanksEnd : List Char → List Char
  | [] => []
  | c :: s =>
    match dropBlanksEnd s with
    | [] => if isBlank c then [] else [c]
    | t => c :: t

/-- The words of a text, where `w` holds the letters of the word in progress. -/
def wordsFrom (w : List Char) : List Char → List (List Char)
  | [] => if w.isEmpty then [] else [w]
  | c :: s =>
    if isBlank c then
      if w.isEmpty then wordsFrom [] s else w :: wordsFrom [] s
    else wordsFrom (w ++ [c]) s

/-- The maximal runs of characters that are not blank, in order. -/
def words (s : List Char) : List (List Char) :=
  wordsFrom [] s

/-- The words of a text with single spaces between them. -/
def joinWords (s : List Char) : List Char :=
  [' '].intercalate (words s)

end NaturalDeduction.Text
