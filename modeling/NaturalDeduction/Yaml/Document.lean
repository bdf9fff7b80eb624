import NaturalDeduction.Value.Order
import NaturalDeduction.Yaml.Base64
import NaturalDeduction.Yaml.Graph.Reader
import NaturalDeduction.Yaml.Token.Lexer

/-!
# The values of YAML documents

A part of a document stands for a value according to its tag. The keys of a record are texts or what
texts stand for, and a later field takes the place of an earlier one with the same key.

A document is worked through level by level: a list or a record waits until those before it and
above it are filled (`Build.fillAll`). So of two faults the one less deep in the document is told,
and of two at one depth the one that comes first. What has been filled still names its parts by
their numbers. It becomes a value by putting the parts in (`Contents.value`), where a document that
contains itself becomes a knot.

`read` is the way from a text to its value. A text without a document has no value.
-/

namespace NaturalDeduction.Yaml

/-- The truth value of a word, whatever the case of its letters. -/
def truthOf (s : List Char) : Except Fault Value :=
  let word := String.ofList (s.map Char.toLower)
  if Tag.trueWords.contains word then .ok (.bool true)
  else if Tag.falseWords.contains word then .ok (.bool false)
  else .error (.notTruth word.toList)

/-- The value of a text. -/
def scalarValue (tag : Tag) (s : List Char) : Except Fault Value :=
  match tag with
  | .null => .ok .null
  | .bool => truthOf s
  | .int => (integer s).map .int
  | .float => (float s).map .float
  | .binary =>
    match Base64.decode s with
    | some octets => .ok (.bytes octets)
    | none => .error .malformed
  | .timestamp => (Stamp.read s).map .other
  | .str => .ok (.text (String.ofList s))
  | _ => .error .malformed

/-! ## Contents -/

/-- What a part stands for, where the parts of it are given by their numbers. -/
inductive Content where
  /-- A value that has no such parts. -/
  | value (v : Value)
  /-- A list. -/
  | list (items : List Nat)
  /-- A fixed sequence. -/
  | tuple (items : List Nat)
  /-- A record. -/
  | record (fields : List (Value × Nat))

/-- What the parts of a document stand for, by their numbers. -/
abbrev Contents := Array (Option Content)

namespace Contents

/-- What a part stands for. -/
def content? (cs : Contents) (i : Nat) : Option Content :=
  cs.getD i none

/-- The value of a part, with the values that are known already. There is none if the fuel is used
up, as it is when a part contains itself. -/
def tree? (cs : Contents) : (fuel : Nat) → Nat → StateT (Array (Option Value)) Option Value
  | 0, _ => failure
  | fuel + 1, i => do
    match (← get).getD i none, cs.content? i with
    | some v, _ => return v
    | none, none => return .null
    | none, some content =>
      let v ←
        match content with
        | .value v => pure v
        | .list items => .list <$> items.mapM (tree? cs fuel)
        | .tuple items => .tuple <$> items.mapM (tree? cs fuel)
        | .record fields =>
          .record <$> fields.mapM fun (key, j) => (Prod.mk key) <$> tree? cs fuel j
      modify fun known => known.setIfInBounds i (some v)
      return v

/-- The value of a part inside of the parts `above`. Every list and every record is a knot under its
number. -/
def knot (cs : Contents) : (fuel : Nat) → (above : List Nat) → Nat → Value
  | 0, _, _ => .null
  | fuel + 1, above, i =>
    let inside := knot cs fuel (i :: above)
    match cs.content? i with
    | none => .null
    | some (.value v) => v
    | some content =>
      if above.contains i then .again i
      else
        .knot i
          (match content with
          | .value v => v
          | .list items => .list (items.map inside)
          | .tuple items => .tuple (items.map inside)
          | .record fields => .record (fields.map fun (key, j) => (key, inside j)))

/-- The value of a part. Only if some part contains itself are there knots in it. -/
def value (cs : Contents) (i : Nat) : Value :=
  match (tree? cs (cs.size + 1) i).run (Array.replicate cs.size none) with
  | some (v, _) => v
  | none => cs.knot (cs.size + 1) [] i

end Contents

/-! ## Filling -/

/-- A document that is being worked through. -/
structure Build where
  /-- The parts. -/
  graph : Graph
  /-- What they stand for. -/
  contents : Contents
  /-- The lists and records that have been met, in that order. -/
  met : Array Nat
  /-- A number of steps that is enough for any merging. -/
  mergeSteps : Nat

namespace Build

/-- A document that has not been begun. -/
def start (g : Graph) : Build :=
  ⟨g, Array.replicate g.nodes.size none, #[], g.mergeSteps⟩

/-- The document with what a part stands for. -/
def put (b : Build) (i : Nat) (c : Content) : Build :=
  { b with contents := b.contents.setIfInBounds i (some c) }

/-- The text of a part under a tag. -/
def textOf (b : Build) (i : Nat) (tag : Tag) : Except Fault (List Char) := do
  let s ← b.graph.text (b.graph.nodes.size + 1) i
  match tag, b.graph.node i with
  | .timestamp, .mapping _ _ => throw .notText
  | _, _ => return s

/-- Meets a part. A text stands for its value at once, and a list or a record has to wait. -/
def meet (i : Nat) (b : Build) : Except Fault Build := do
  if (b.contents.content? i).isSome then return b
  let tag := (b.graph.node i).tag
  if tag.isCollection then
    return { b.put i (.list []) with met := b.met.push i }
  else if tag.isKnown then
    return b.put i (.value (← scalarValue tag (← b.textOf i tag)))
  else throw .malformed

/-- Meets several parts. -/
def meetAll (is : List Nat) (b : Build) : Except Fault Build :=
  is.foldlM (fun b i => b.meet i) b

/-- Meets a key and a value. Lists and records cannot be keys. -/
def meetField (f : Nat × Nat) (b : Build) : Except Fault (Value × Build) := do
  let b ← b.meet f.1
  if (b.graph.node f.1).tag.isCollection then throw .malformed
  match b.contents.content? f.1 with
  | some (.value key) => return (key, ← b.meet f.2)
  | _ => throw .malformed

/-- The fields of a record after merging. -/
def fieldsOf (i : Nat) (b : Build) : Except Fault (List (Value × Nat) × Build) := do
  match b.graph.node i with
  | .mapping _ _ =>
    let b := { b with graph := ← Graph.mergeInto b.mergeSteps i [] b.graph }
    (b.graph.fields i).foldlM (fun (fields, b) f => do
      let (key, b) ← meetField f b
      return (Value.put fields key f.2, b)) ([], b)
  | _ => throw .malformed

/-- A record of one field as a fixed sequence of key and value. It is no part of the document, and
gets a number of its own. -/
def meetPair (i : Nat) (b : Build) : Except Fault (Nat × Build) := do
  match b.graph.node i with
  | .mapping _ [(k, v)] =>
    let b ← b.meetAll [k, v]
    return (b.contents.size, { b with contents := b.contents.push (some (.tuple [k, v])) })
  | _ => throw .malformed

/-- Records of one field each. -/
def meetPairs (is : List Nat) (b : Build) : Except Fault (List Nat × Build) := do
  let (pairs, b) ← is.foldlM (fun (pairs, b) i => do
    let (j, b) ← meetPair i b
    return (j :: pairs, b)) ([], b)
  return (pairs.reverse, b)

/-- Fills a list or a record. -/
def fill (i : Nat) (b : Build) : Except Fault Build := do
  match (b.graph.node i).tag with
  | .seq =>
    match b.graph.node i with
    | .sequence _ items => return (← b.meetAll items).put i (.list items)
    | _ => throw .malformed
  | .map =>
    let (fields, b) ← b.fieldsOf i
    return b.put i (.record fields)
  | .set =>
    let (fields, b) ← b.fieldsOf i
    return b.put i (.value (.set (fields.map Prod.fst)))
  | _ =>
    match b.graph.node i with
    | .sequence _ items =>
      let (pairs, b) ← b.meetPairs items
      return b.put i (.list pairs)
    | _ => throw .malformed

/-- Fills everything that has been met from the `k`th on. -/
def fillFrom : (fuel k : Nat) → Build → Except Fault Build
  | 0, _, b => .ok b
  | fuel + 1, k, b =>
    match b.met[k]? with
    | some i => do fillFrom fuel (k + 1) (← b.fill i)
    | none => .ok b

/-- Fills everything below a part. Every part is met at most once. -/
def fillAll (i : Nat) (b : Build) : Except Fault Build := do
  fillFrom b.graph.nodes.size 0 (← b.meet i)

end Build

/-- The value of a document. -/
def read (s : String) : Except Fault Value := do
  match ← Graph.ofTokens (← tokens s.toList) with
  | some (g, i) => return (← (Build.start g).fillAll i).contents.value i
  | none => return .null

end NaturalDeduction.Yaml
