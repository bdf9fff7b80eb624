import NaturalDeduction.Number.Shortest
import NaturalDeduction.Text.Quoted

/-!
# Values of unknown kind

Formulas, rule names and citations come from outside, from a proof document or from a caller, and
what comes may be anything. A `Value` is such a thing before it has been looked at. Its written form
(`Value.literal`) stands in messages, and a few readings decide what may be done with it: whether it
counts as nothing (`Value.isFalsy`), what it yields item by item (`Value.items?`) and which number
it is (`Value.toInt?`, `Value.extent?`).

A list may contain itself, at any depth. Such a value is a knot: it has a name, and inside of it the
name stands for the whole again. To look into a knot is to put the whole in the places of its name
(`Value.opened`).
-/

namespace NaturalDeduction

/-- A thing whose kind is not known beforehand. -/
inductive Value where
  /-- No value. -/
  | null
  /-- A truth value. -/
  | bool (b : Bool)
  /-- A whole number. -/
  | int (n : Int)
  /-- A floating-point number. -/
  | float (x : Binary64)
  /-- A text. -/
  | text (s : String)
  /-- A sequence of octets. -/
  | bytes (octets : List Nat)
  /-- A list of values. -/
  | list (items : List Value)
  /-- A fixed sequence of values. -/
  | tuple (items : List Value)
  /-- Values without repetition. -/
  | set (items : List Value)
  /-- Values under keys, which are values too. -/
  | record (fields : List (Value × Value))
  /-- A thing of which nothing matters but its written form, such as a date. -/
  | other (form : String)
  /-- A value under a name, by which it may contain itself. -/
  | knot (name : Nat) (v : Value)
  /-- The knot of that name, somewhere inside of it. -/
  | again (name : Nat)
deriving BEq, Inhabited

namespace Value

/-- What is written for a value inside of itself. -/
def repeated : Value → String
  | .list _ => "[...]"
  | .tuple _ => "(...)"
  | .record _ => "\x7b...\x7d"
  | _ => "..."

mutual

/-- The written form of a value inside of knots that are being written, each with what is written
for it a second time. -/
def literalWithin (begun : List (Nat × String)) : Value → String
  | .null => "None"
  | .bool true => "True"
  | .bool false => "False"
  | .int n => toString n
  | .float x => x.text
  | .text s => Text.quoted s
  | .bytes octets => Text.quotedOctets octets
  | .list items => "[" ++ ", ".intercalate (literals begun items) ++ "]"
  | .tuple [v] => "(" ++ v.literalWithin begun ++ ",)"
  | .tuple items => "(" ++ ", ".intercalate (literals begun items) ++ ")"
  | .set [] => "set()"
  | .set items => "\x7b" ++ ", ".intercalate (literals begun items) ++ "\x7d"
  | .record fields => "\x7b" ++ ", ".intercalate (fieldLiterals begun fields) ++ "\x7d"
  | .other form => form
  | .knot name v => (begun.lookup name).getD (v.literalWithin ((name, v.repeated) :: begun))
  | .again name => (begun.lookup name).getD "..."

/-- The written forms of the items of a list. -/
def literals (begun : List (Nat × String)) : List Value → List String
  | [] => []
  | v :: vs => v.literalWithin begun :: literals begun vs

/-- The written forms of the fields of a record. -/
def fieldLiterals (begun : List (Nat × String)) : List (Value × Value) → List String
  | [] => []
  | (key, v) :: fs =>
    (key.literalWithin begun ++ ": " ++ v.literalWithin begun) :: fieldLiterals begun fs

end

/-- The written form of a value: texts are quoted, lists stand in brackets, records in braces. A
fixed sequence of one item has a comma after it. -/
def literal (v : Value) : String :=
  v.literalWithin []

/-- The form in running text, where a text stands without its marks. -/
def display : Value → String
  | .text s => s
  | v => v.literal

/-! ## Knots -/

mutual

/-- A value with another one in the places of a name. A knot of the same name has the name for
itself. -/
def refer (name : Nat) (whole : Value) : Value → Value
  | .again n => if n = name then whole else .again n
  | .knot n v => if n = name then .knot n v else .knot n (refer name whole v)
  | .list items => .list (referAll name whole items)
  | .tuple items => .tuple (referAll name whole items)
  | .record fields => .record (referFields name whole fields)
  | v => v

/-- Values with another one in the places of a name. -/
def referAll (name : Nat) (whole : Value) : List Value → List Value
  | [] => []
  | v :: vs => refer name whole v :: referAll name whole vs

/-- Fields with another value in the places of a name. -/
def referFields (name : Nat) (whole : Value) : List (Value × Value) → List (Value × Value)
  | [] => []
  | (key, v) :: fs => (key, refer name whole v) :: referFields name whole fs

end

/-- The value without its name, which the whole value takes the places of. -/
def opened : Value → Value
  | .knot name v => refer name (.knot name v) v
  | v => v

mutual

/-- Whether there is a knot in a value that contains itself. -/
def isCircular : Value → Bool
  | .again _ => true
  | .knot _ v => v.isCircular
  | .list items => anyCircular items
  | .tuple items => anyCircular items
  | .record fields => anyFieldCircular fields
  | _ => false

/-- Whether one of several values is circular. -/
def anyCircular : List Value → Bool
  | [] => false
  | v :: vs => v.isCircular || anyCircular vs

/-- Whether a value of one of several fields is circular. -/
def anyFieldCircular : List (Value × Value) → Bool
  | [] => false
  | (_, v) :: fs => v.isCircular || anyFieldCircular fs

end

/-! ## Long numbers -/

/-- The greatest number of digits of a whole number that is written or read. -/
def digitLimit : Nat := 4300

/-- The least whole number that has more than so many digits. -/
@[irreducible] def leastAbove (digits : Nat) : Nat := Nat.pow 10 digits

/-- A number with more digits than allowed is greater than how many are allowed. -/
theorem lt_leastAbove (digits : Nat) : digits < leastAbove digits := by
  unfold leastAbove
  exact Nat.lt_pow_self (by decide)

mutual

/-- Whether all whole numbers in a value are short enough to be written. -/
def isWritable : Value → Bool
  | .int n => n.natAbs < leastAbove digitLimit
  | .list items => allWritable items
  | .tuple items => allWritable items
  | .set items => allWritable items
  | .record fields => allFieldsWritable fields
  | .knot _ v => v.isWritable
  | _ => true

/-- Whether several values can be written. -/
def allWritable : List Value → Bool
  | [] => true
  | v :: vs => v.isWritable && allWritable vs

/-- Whether several fields can be written. -/
def allFieldsWritable : List (Value × Value) → Bool
  | [] => true
  | (key, v) :: fs => key.isWritable && v.isWritable && allFieldsWritable fs

end

/-- The value that says nothing can be written. -/
@[simp] theorem isWritable_null : null.isWritable = true := rfl

/-- Truth and falsity can be written. -/
@[simp] theorem isWritable_bool (b : Bool) : (bool b).isWritable = true := rfl

/-- Every text can be written. -/
@[simp] theorem isWritable_text (s : String) : (text s).isWritable = true := rfl

/-- A small number has no more digits than may be written. -/
theorem isWritable_of_natAbs_le {n : Int} (h : n.natAbs ≤ digitLimit) :
    (int n).isWritable = true := by
  rw [isWritable]
  exact decide_eq_true (Nat.lt_of_le_of_lt h (lt_leastAbove digitLimit))

/-- There is a number that has too many. -/
theorem isWritable_leastAbove : (int (leastAbove digitLimit)).isWritable = false := by
  rw [isWritable, Int.natAbs_natCast]
  exact decide_eq_false (Nat.lt_irrefl _)

/-! ## Readings -/

/-- Whether a value counts as nothing: no value, falsity, zero, and whatever is empty. -/
def isFalsy : Value → Bool
  | .null => true
  | .bool b => !b
  | .int n => n == 0
  | .float x => x.isZero
  | .text s => s.isEmpty
  | .bytes octets => octets.isEmpty
  | .list items => items.isEmpty
  | .tuple items => items.isEmpty
  | .set items => items.isEmpty
  | .record fields => fields.isEmpty
  | .other _ => false
  | .knot _ v => v.isFalsy
  | .again _ => false

/-- What a value yields item by item: a list its items, a text its characters, a record its keys.
The kinds that are not made of parts have no items. -/
def items? (v : Value) : Option (List Value) :=
  match v.opened with
  | .text s => some (s.toList.map fun c => .text (String.singleton c))
  | .bytes octets => some (octets.map fun (n : Nat) => .int n)
  | .list items => some items
  | .tuple items => some items
  | .set items => some items
  | .record fields => some (fields.map Prod.fst)
  | _ => none

/-- The items of a list. -/
@[simp] theorem items?_list (items : List Value) : (list items).items? = some items := rfl

/-- The items of a tuple. -/
@[simp] theorem items?_tuple (items : List Value) : (tuple items).items? = some items := rfl

/-- A list that is nothing but itself yields itself, and nothing else. -/
theorem items?_knot_again (name : Nat) :
    (knot name (list [again name])).items? = some [knot name (list [again name])] := by
  simp [items?, opened, refer, referAll]

/-- The whole number a value stands for. Truth counts as one and falsity as zero. -/
def toInt? : Value → Option Int
  | .int n => some n
  | .bool true => some 1
  | .bool false => some 0
  | _ => none

/-- The text a value is, if it is one. -/
def toText? : Value → Option String
  | .text s => some s
  | _ => none

/-- The size of a value, if it is a number. -/
def extent? : Value → Option Extent
  | .float x => some x.extent
  | v => v.toInt?.map .ofInt

/-- The value as a floating-point number, if it is a number. -/
def toFloat? : Value → Option Binary64
  | .float x => some x
  | v => v.toInt?.map .ofInt

/-- A value that counts as a whole number is as great as that number. -/
theorem extent?_of_toInt? {v : Value} {n : Int} (h : v.toInt? = some n) :
    v.extent? = some (.ofInt n) := by
  cases v with
  | int m => simp_all [toInt?, extent?]
  | bool b => simp_all [extent?]
  | _ => simp [toInt?] at h

end Value

end NaturalDeduction
