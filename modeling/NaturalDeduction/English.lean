import NaturalDeduction.Text.Blank
import NaturalDeduction.Text.Word

/-!
# From English to symbols

A sentence over propositional letters, with its structure given by parentheses, is turned into a
formula text by replacing the words for connectives one after the other (`English.toSymbols`). Only
words that stand alone are replaced, and the blanks around them go with them.

An `if` is read in one of three ways. In `if and only if` and `only if` it is part of a longer
phrase. Directly after a formula it is the converse conditional `<-`, which is not a connective of
the formulas (`English.isConverse`). Otherwise it opens a conditional whose `then` becomes the
arrow, and is dropped.
-/

namespace NaturalDeduction.English

open Text (isBlank isWord)

/-! ## Replacing what matches -/

/-- A pattern looks at a place in a text, given the text before it, last character first, and the
text from there on. It tells how many characters match. -/
abbrev Pattern : Type := (before rest : List Char) → Option Nat

/-- Replaces the matches from left to right. `skip` characters of the match in progress are still to
be dropped, and `before` is the text before the place, last character first. -/
def replaceFrom (p : Pattern) (new : List Char) : (skip : Nat) → (before : List Char) →
    List Char → List Char
  | _, _, [] => []
  | skip + 1, before, c :: s => replaceFrom p new skip (c :: before) s
  | 0, before, c :: s =>
    match p before (c :: s) with
    | some (n + 1) => new ++ replaceFrom p new n (c :: before) s
    | _ => c :: replaceFrom p new 0 (c :: before) s

/-- Replaces every match that does not overlap an earlier one. -/
def replace (p : Pattern) (new : List Char) (s : List Char) : List Char :=
  replaceFrom p new 0 [] s

/-! ## Patterns -/

/-- Whether a text begins with a word character. -/
def startsWithWord : List Char → Bool
  | [] => false
  | c :: _ => isWord c

/-- What follows a phrase at the front of a text, if the phrase stands alone there: no word goes on
before it or after it. -/
def phrase? (phrase before rest : List Char) : Option (List Char) :=
  if startsWithWord before then none
  else if phrase.isPrefixOf rest then
    let after := rest.drop phrase.length
    if startsWithWord after then none else some after
  else none

/-- A phrase that stands alone. -/
def alone (phrase : List Char) : Pattern := fun before rest =>
  (phrase? phrase before rest).map fun _ => phrase.length

/-- A phrase that stands alone, with the blanks before and after it. -/
def spaced (phrase : List Char) : Pattern := fun before rest =>
  let blanks := rest.takeWhile isBlank
  (phrase? phrase (blanks.reverse ++ before) (rest.dropWhile isBlank)).map fun after =>
    blanks.length + phrase.length + (after.takeWhile isBlank).length

/-- Whether a place is at the front of the text or directly after an opening parenthesis. -/
def opens : (before : List Char) → Bool
  | [] => true
  | c :: _ => c == '('

/-- A pattern at the front of the text or directly after an opening parenthesis. -/
def opening (p : Pattern) : Pattern := fun before rest =>
  if opens before then p before rest else none

/-- Words after which an `if` opens a conditional. -/
def connectiveWords : List (List Char) :=
  ["and", "or", "then", "only", "if", "not"].map String.toList

/-- Whether the text before a place ends with a formula: its last character other than blanks and
parentheses is a word character. -/
def endsWithFormula (before : List Char) : Bool :=
  startsWithWord (before.dropWhile fun c => isBlank c || c == '(' || c == ')')

/-- Whether the text before a place ends with a connective word, with only blanks and opening
parentheses after it. -/
def endsWithConnective (before : List Char) : Bool :=
  let before := before.dropWhile fun c => isBlank c || c == '('
  connectiveWords.any fun word =>
    word.reverse.isPrefixOf before && !startsWithWord (before.drop word.length)

/-- Whether an `if` after the text `before` is the converse conditional. -/
def isConverse (before : List Char) : Bool :=
  endsWithFormula before && !endsWithConnective before

/-- An `if` that is the converse conditional. -/
def converseIf : Pattern := fun before rest =>
  if isConverse before then alone "if".toList before rest else none

/-! ## The replacements -/

/-- The replacements, in the order in which they are made. -/
def replacements : List (Pattern × List Char) :=
  [(spaced "if and only if".toList, " <-> ".toList),
    (spaced "only if".toList, " -> ".toList),
    (converseIf, "<-".toList),
    (spaced "or".toList, " V ".toList),
    (spaced "and".toList, " & ".toList),
    (spaced "then".toList, " -> ".toList),
    (opening (spaced "not".toList), "~".toList),
    (spaced "not".toList, " ~".toList),
    (spaced "implies".toList, " -> ".toList),
    (spaced "if".toList, [])]

/-- The formula text of a sentence, by characters. -/
def toSymbolChars (s : List Char) : List Char :=
  replacements.foldl (fun s (p, new) => replace p new s) s

/-- The formula text of a sentence. It is not checked. -/
def toSymbols (s : String) : String :=
  String.ofList (toSymbolChars s.toList)

end NaturalDeduction.English
