import NaturalDeduction.Value

/-!
# Equality, order and keys of values

Values are equal if they say the same: numbers are compared by size whatever their kind, so that one
is equal to truth and zero to falsity (`Value.agrees`). Knots are equal if they are the same. Only
numbers, texts and sequences can be put in order, each kind by itself (`Value.less?`,
`Value.sorted?`).

A record has one value under each key. What can grow, such as a list, cannot be a key
(`Value.isKey`). A second value under a key takes the place of the first (`Value.put`).
-/

namespace NaturalDeduction.Value

mutual

/-- Equality of values. -/
def agrees : Value → Value → Bool
  | .null, .null => true
  | .text s, .text t => s == t
  | .bytes xs, .bytes ys => xs == ys
  | .list xs, .list ys => agreeAll xs ys
  | .tuple xs, .tuple ys => agreeAll xs ys
  | .set xs, .set ys => xs.length == ys.length && allAmong xs ys
  | .record xs, .record ys => xs.length == ys.length && fieldsAmong xs ys
  | .other s, .other t => s == t
  | .knot n _, .knot m _ => n == m
  | v, w =>
    match v.extent?, w.extent? with
    | some a, some b => a.same b
    | _, _ => false

/-- Equality of lists, item by item. -/
def agreeAll : List Value → List Value → Bool
  | [], [] => true
  | v :: vs, w :: ws => v.agrees w && agreeAll vs ws
  | _, _ => false

/-- Whether each of the first values is among the second ones. -/
def allAmong : List Value → List Value → Bool
  | [], _ => true
  | v :: vs, ws => (ws.any fun w => v.agrees w) && allAmong vs ws

/-- Whether each of the first fields is among the second ones. -/
def fieldsAmong : List (Value × Value) → List (Value × Value) → Bool
  | [], _ => true
  | (key, v) :: fs, gs =>
    (gs.any fun g => key.agrees g.1 && v.agrees g.2) && fieldsAmong fs gs

end

/-! ## Order -/

mutual

/-- Whether a value comes before another, if the two can be put in order. -/
def less? : Value → Value → Option Bool
  | .text s, .text t => some (decide (s < t))
  | .list xs, .list ys => lessAll? xs ys
  | .tuple xs, .tuple ys => lessAll? xs ys
  | v, w =>
    match v.extent?, w.extent? with
    | some a, some b => some (a.lt b)
    | _, _ => none

/-- Order of sequences by the first items that are not equal. -/
def lessAll? : List Value → List Value → Option Bool
  | [], [] => some false
  | [], _ :: _ => some true
  | _ :: _, [] => some false
  | v :: vs, w :: ws => if v.agrees w then lessAll? vs ws else v.less? w

end

/-- A value put into values that are in order, after those that are equal to it. -/
def insert? (v : Value) : List Value → Option (List Value)
  | [] => some [v]
  | w :: ws => do
    if ← v.less? w then return v :: w :: ws
    return w :: (← insert? v ws)

/-- Values in order, if they can be put in order. -/
def sorted? (vs : List Value) : Option (List Value) :=
  vs.foldlM (fun done v => insert? v done) []

/-! ## Keys -/

mutual

/-- Whether a value can be a key. -/
def isKey : Value → Bool
  | .list _ => false
  | .set _ => false
  | .record _ => false
  | .knot _ _ => false
  | .again _ => false
  | .tuple items => allKeys items
  | _ => true

/-- Whether all values can be keys. -/
def allKeys : List Value → Bool
  | [] => true
  | v :: vs => v.isKey && allKeys vs

end

section

variable {α : Type}

/-- What stands under a key. -/
def find? (fields : List (Value × α)) (key : Value) : Option α :=
  (fields.find? fun f => f.1.agrees key).map Prod.snd

/-- Fields with something put under a key. A key that is there already stays as it is. -/
def put (fields : List (Value × α)) (key : Value) (a : α) : List (Value × α) :=
  match fields with
  | [] => [(key, a)]
  | f :: fs => if f.1.agrees key then (f.1, a) :: fs else f :: put fs key a

/-- Fields with other fields put in one after the other. -/
def putAll (fields others : List (Value × α)) : List (Value × α) :=
  others.foldl (fun done f => put done f.1 f.2) fields

end

end NaturalDeduction.Value
