/-!
# Tokens of YAML documents

A document is cut into tokens before its structure is read. The nesting of lists and records that
are laid out in lines is made explicit: such a list or record has a token at its beginning and one
at its end, and the key of a field has a token before it, even if there is no sign for it in the
text.
-/

namespace NaturalDeduction.Yaml

/-- A tag as it is written: after a handle, which stands for the beginning of the tag, or in full.
-/
structure TagName where
  /-- The handle. -/
  handle : Option String
  /-- What follows the handle. -/
  suffix : String

/-- What a document is made of. -/
inductive Token where
  /-- The version of the language that a document wants. -/
  | version (major : Nat)
  /-- What a handle stands for. -/
  | handle (name meaning : String)
  /-- An instruction that has no effect. -/
  | instruction
  /-- The marks before a document. -/
  | documentStart
  /-- The marks after a document. -/
  | documentEnd
  /-- The end of the text. -/
  | streamEnd
  /-- A list in lines begins. -/
  | listStart
  /-- A record in lines begins. -/
  | recordStart
  /-- A list or a record in lines ends. -/
  | blockEnd
  /-- The bracket before a list. -/
  | openBracket
  /-- The bracket after a list. -/
  | closeBracket
  /-- The brace before a record. -/
  | openBrace
  /-- The brace after a record. -/
  | closeBrace
  /-- The dash before an item. -/
  | dash
  /-- The comma between items. -/
  | comma
  /-- A key follows. -/
  | key
  /-- The value of a field follows. -/
  | value
  /-- A name for what stands elsewhere. -/
  | alias (name : String)
  /-- A name for what follows. -/
  | anchor (name : String)
  /-- The tag of what follows. -/
  | tag (name : TagName)
  /-- A text, which may be plain. -/
  | scalar (text : List Char) (plain : Bool)

end NaturalDeduction.Yaml
