import NaturalDeduction.Formula.Printer
import NaturalDeduction.Text.Blank
import NaturalDeduction.Value.Order

/-!
# What is passed to functions

A `Datum` is something that is passed to a traced function or returned by it. It is shown in its
written form (`Datum.literal`) or set in lines of at most 80 characters (`Datum.lined`). In lines,
the keys of records are in order, a list or a record that is too long has each item on a line of its
own, and a text that is too long is broken after its lines and, if need be, after its words. A text
that stands by itself is then put in parentheses.
-/

namespace NaturalDeduction.Trace

/-- Something that is passed to a function or returned by it. -/
inductive Datum where
  /-- Something that is shown in one piece. -/
  | atom (form : String)
  /-- A text. -/
  | text (s : String)
  /-- A list. -/
  | list (items : List Datum)
  /-- A record, with the written forms of its keys. -/
  | record (fields : List (String × Datum))

namespace Datum

/-- A formula, which is shown with its constructors. -/
def ofFormula (f : Formula) : Datum :=
  .atom (String.ofList f.constructorForm)

mutual

/-- The written form. -/
def literal : Datum → String
  | atom form => form
  | text s => Text.quoted s
  | list items => "[" ++ ", ".intercalate (literals items) ++ "]"
  | record fields => "\x7b" ++ ", ".intercalate (fieldLiterals fields) ++ "\x7d"

/-- The written forms of items. -/
def literals : List Datum → List String
  | [] => []
  | d :: ds => d.literal :: literals ds

/-- The written forms of fields. -/
def fieldLiterals : List (String × Datum) → List String
  | [] => []
  | (key, d) :: fs => (key ++ ": " ++ d.literal) :: fieldLiterals fs

end

/-! ## Values -/

mutual

/-- A value as it is passed. With `inOrder` the fields of records are put in the order of their
keys, if these can be put in order. -/
def ofValue (inOrder : Bool) : Value → Datum
  | .text s => .text s
  | .list items => .list (ofValues inOrder items)
  | .record fields =>
    let made := ofFields inOrder fields
    let chosen :=
      if inOrder then (Value.sorted? (made.map Prod.fst)).getD (made.map Prod.fst)
      else made.map Prod.fst
    .record (chosen.filterMap fun key =>
      (made.find? fun f => f.1.agrees key).map fun f => (f.1.literal, f.2))
  | v => .atom v.literal

/-- Values as they are passed. -/
def ofValues (inOrder : Bool) : List Value → List Datum
  | [] => []
  | v :: vs => ofValue inOrder v :: ofValues inOrder vs

/-- Fields as they are passed, with their keys. -/
def ofFields (inOrder : Bool) : List (Value × Value) → List (Value × Datum)
  | [] => []
  | (key, v) :: fs => (key, ofValue inOrder v) :: ofFields inOrder fs

end

/-! ## Texts in lines -/

/-- The greatest width of a line with several items. -/
def lineWidth : Int := 80

/-- Whether a character ends a line. -/
def endsLine (c : Char) : Bool :=
  [0x0A, 0x0B, 0x0C, 0x0D, 0x1C, 0x1D, 0x1E, 0x85, 0x2028, 0x2029].contains c.toNat

/-- A text cut into lines, which keep their ends. A carriage return and a line feed are one end. -/
def linesOf (current : List Char) : List Char → List (List Char)
  | [] => if current.isEmpty then [] else [current.reverse]
  | '\r' :: '\n' :: s => ('\n' :: '\r' :: current).reverse :: linesOf [] s
  | c :: s =>
    if endsLine c then (c :: current).reverse :: linesOf [] s else linesOf (c :: current) s

/-- A line cut into words, each with the blanks after it. -/
def wordsOf (current : List Char) : List Char → List (List Char)
  | [] => if current.isEmpty then [] else [current.reverse]
  | c :: s =>
    match current with
    | b :: _ =>
      if Text.isBlank b && !Text.isBlank c then current.reverse :: wordsOf [c] s
      else wordsOf (c :: current) s
    | [] => wordsOf [c] s

/-- The quoted form of characters. -/
def quotedForm (s : List Char) : String :=
  Text.quoted (String.ofList s)

/-- Words put together as long as they fit into a width; after the last one there must be room for
`after` more characters. -/
def fillWords (width after : Int) (current : List Char) : List (List Char) → List String
  | [] => if current.isEmpty then [] else [quotedForm current]
  | w :: ws =>
    let room := if ws.isEmpty then width - after else width
    let candidate := current ++ w
    if room < (quotedForm candidate).length then
      (if current.isEmpty then [] else [quotedForm current]) ++ fillWords width after w ws
    else fillWords width after candidate ws

/-- The pieces of the lines of a text. -/
def piecesOf (width after : Int) : List (List Char) → List String
  | [] => []
  | l :: ls =>
    let following := if ls.isEmpty then after else 0
    let whole := quotedForm l
    (if width - following < whole.length then fillWords width following [] (wordsOf [] l)
      else [whole]) ++
      piecesOf width after ls

/-- Spaces. -/
def spaces (n : Nat) : String :=
  String.ofList (List.replicate n ' ')

/-- A long text in pieces one below the other, where `after` characters follow. -/
def linedText (indent after : Nat) (alone : Bool) (s : String) : String :=
  let indent := if alone then indent + 1 else indent
  let after := if alone then after + 1 else after
  match piecesOf (lineWidth - indent) after (linesOf [] s.toList) with
  | [] => Text.quoted s
  | [_] => Text.quoted s
  | pieces =>
    let body := ("\n" ++ spaces indent).intercalate pieces
    if alone then "(" ++ body ++ ")" else body

/-! ## Lines -/

mutual

/-- The written form in lines. The line is indented by `indent`, and `after` characters follow. -/
def lined (indent after : Nat) (alone : Bool) (d : Datum) : String :=
  if (d.literal.length : Int) ≤ lineWidth - indent - after then d.literal
  else
    match d with
    | atom form => form
    | text s => linedText indent after alone s
    | list items => "[" ++ linedItems (indent + 1) (after + 1) items ++ "]"
    | record fields => "\x7b" ++ linedFields (indent + 1) (after + 1) fields ++ "\x7d"

/-- Items on lines of their own, where `after` characters follow the last one. -/
def linedItems (indent after : Nat) : List Datum → String
  | [] => ""
  | [d] => d.lined indent after false
  | d :: ds => d.lined indent 1 false ++ ",\n" ++ spaces indent ++ linedItems indent after ds

/-- Fields on lines of their own, where `after` characters follow the last one. -/
def linedFields (indent after : Nat) : List (String × Datum) → String
  | [] => ""
  | [(key, d)] => key ++ ": " ++ d.lined (indent + key.length + 2) after false
  | (key, d) :: fs =>
    key ++ ": " ++ d.lined (indent + key.length + 2) 1 false ++ ",\n" ++ spaces indent ++
      linedFields indent after fs

end

end Datum

end NaturalDeduction.Trace
