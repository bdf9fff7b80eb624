import NaturalDeduction.Yaml.Number
import NaturalDeduction.Yaml.Stamp

/-!
# Tags

The tag of a part of a document says what it stands for. A plain text without a tag gets one by its
form (`Tag.ofPlain`): it may stand for a truth value, a number, no value or a date instead of
itself. Other texts stand for themselves.
-/

namespace NaturalDeduction.Yaml

/-- What a part of a document stands for. -/
inductive Tag where
  /-- No value. -/
  | null
  /-- A truth value. -/
  | bool
  /-- A whole number. -/
  | int
  /-- A floating-point number. -/
  | float
  /-- Octets. -/
  | binary
  /-- A date. -/
  | timestamp
  /-- A list of single fields without repetition. -/
  | omap
  /-- A list of single fields. -/
  | pairs
  /-- A set. -/
  | set
  /-- A text. -/
  | str
  /-- A list. -/
  | seq
  /-- A record. -/
  | map
  /-- A key whose value is a record to be merged. -/
  | merge
  /-- A key for the value of the whole. -/
  | default
  /-- Something else. -/
  | unknown
deriving DecidableEq

namespace Tag

/-- The beginning of the names of the usual tags. -/
def common : String := "tag:yaml.org,2002:"

/-- The names of the usual tags, without their common beginning. -/
def names : List (String × Tag) :=
  [("null", .null), ("bool", .bool), ("int", .int), ("float", .float), ("binary", .binary),
    ("timestamp", .timestamp), ("omap", .omap), ("pairs", .pairs), ("set", .set), ("str", .str),
    ("seq", .seq), ("map", .map), ("merge", .merge), ("value", .default)]

/-- The tag with a given name. -/
def ofName (s : String) : Tag :=
  ((names.find? fun n => common ++ n.1 == s).map Prod.snd).getD .unknown

/-- The words for no value. -/
def nullWords : List String :=
  ["", "~", "null", "Null", "NULL"]

/-- The words for truth. -/
def trueWords : List String :=
  ["true", "True", "TRUE", "yes", "Yes", "YES", "on", "On", "ON"]

/-- The words for falsity. -/
def falseWords : List String :=
  ["false", "False", "FALSE", "no", "No", "NO", "off", "Off", "OFF"]

/-- Whether a tag is one for lists or records. -/
def isCollection : Tag → Bool
  | .seq => true
  | .omap => true
  | .pairs => true
  | .map => true
  | .set => true
  | _ => false

/-- Whether a tag says what a part stands for. -/
def isKnown : Tag → Bool
  | .merge => false
  | .default => false
  | .unknown => false
  | _ => true

/-- The tag of a plain text by its form. A line feed at its end does not count. -/
def ofPlain (s : List Char) : Tag :=
  let s := withoutFinalBreak s
  let word := String.ofList s
  if trueWords.contains word || falseWords.contains word then .bool
  else if isFloat s then .float
  else if isInteger s then .int
  else if word == "<<" then .merge
  else if nullWords.contains word then .null
  else if Stamp.isStamp s then .timestamp
  else if word == "=" then .default
  else .str

end Tag

end NaturalDeduction.Yaml
