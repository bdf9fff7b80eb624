import NaturalDeduction.Text.Quoted

/-!
# Faults of documents

Most faults of a document are faults of its form, and these are not told apart. A scalar under a tag
that does not fit it has a fault of its own: digits that are no number, a word that is no truth
value, a date that is not in the calendar.
-/

namespace NaturalDeduction.Yaml

/-- What can be wrong with a document. -/
inductive Fault where
  /-- The document is not well-formed, or it has a tag or a key that is not admitted. -/
  | malformed
  /-- The document is nested too deep. -/
  | tooDeep
  /-- A part under a tag for dates is not a text. -/
  | notText
  /-- A text is not a whole number in a base. -/
  | notInteger (base : Nat) (text : List Char)
  /-- A decimal number has more digits than are admitted. -/
  | tooManyDigits (limit count : Nat)
  /-- A text is not a floating-point number. -/
  | notFloat (text : List Char)
  /-- A number has no characters. -/
  | emptyNumber
  /-- A word is not a truth value. -/
  | notTruth (word : List Char)
  /-- A text is not a date. -/
  | notDate
  /-- A part of a date is out of its range. -/
  | outOfRange (reason : String)

namespace Fault

/-- The text of the fault, where it has one. -/
def message? : Fault → Option String
  | malformed => none
  | tooDeep => some "maximum recursion depth exceeded"
  | notText => none
  | notInteger base text =>
    some ("invalid literal for int() with base " ++ toString base ++ ": " ++
      Text.quoted (String.ofList text))
  | tooManyDigits limit count =>
    some ("Exceeds the limit (" ++ toString limit ++
      " digits) for integer string conversion: value has " ++ toString count ++
      " digits; use sys.set_int_max_str_digits() to increase the limit")
  | notFloat text =>
    some ("could not convert string to float: " ++ Text.quoted (String.ofList text))
  | emptyNumber => some "string index out of range"
  | notTruth word => some (Text.quoted (String.ofList word))
  | notDate => none
  | outOfRange reason => some reason

end Fault

end NaturalDeduction.Yaml
