import NaturalDeduction.Yaml.Tag

/-!
# The graph of a YAML document

A document is made up of texts, lists and records, each with its tag (`Node`). A part may have a
name, and stands again wherever the name is used after that, also inside of itself. So the parts are
numbered, and a list or a record gives the numbers of its parts (`Graph`).

A key for merging puts the fields of other records before those of its own record, and among several
of them the first has precedence. Merging takes the key away before it looks at what is merged, so
that a record may also be merged into itself (`Graph.mergeInto`).
-/

namespace NaturalDeduction.Yaml

/-- A part of a document. -/
inductive Node where
  /-- A text. -/
  | scalar (tag : Tag) (text : List Char)
  /-- A list, by the numbers of its items. -/
  | sequence (tag : Tag) (items : List Nat)
  /-- A record, by the numbers of its keys and values. -/
  | mapping (tag : Tag) (fields : List (Nat × Nat))

namespace Node

/-- What stands for a part that is left out. -/
def empty : Node :=
  .scalar .null []

/-- The tag of a part. -/
def tag : Node → Tag
  | .scalar t _ => t
  | .sequence t _ => t
  | .mapping t _ => t

/-- The part with another tag. -/
def withTag (t : Tag) : Node → Node
  | .scalar _ s => .scalar t s
  | .sequence _ items => .sequence t items
  | .mapping _ fields => .mapping t fields

/-- How many numbers there are in a part. -/
def degree : Node → Nat
  | .scalar _ _ => 0
  | .sequence _ items => items.length
  | .mapping _ fields => fields.length

end Node

/-- The parts of a document by their numbers. -/
structure Graph where
  /-- The parts. -/
  nodes : Array Node

namespace Graph

/-- The part with a number. -/
def node (g : Graph) (i : Nat) : Node :=
  g.nodes.getD i .empty

/-- The graph with another part under a number. -/
def set (g : Graph) (i : Nat) (n : Node) : Graph :=
  ⟨g.nodes.setIfInBounds i n⟩

/-- The fields of a record. -/
def fields (g : Graph) (i : Nat) : List (Nat × Nat) :=
  match g.node i with
  | .mapping _ fields => fields
  | _ => []

/-- The graph with other fields of a record. -/
def setFields (g : Graph) (i : Nat) (fields : List (Nat × Nat)) : Graph :=
  g.set i (.mapping (g.node i).tag fields)

/-- The text of a part under a tag for texts: its own, or for a record that of the field whose key
is the sign for the value of the whole. A record may look for its text in itself without end. -/
def text (g : Graph) : (fuel : Nat) → Nat → Except Fault (List Char)
  | 0, _ => .error .tooDeep
  | fuel + 1, i =>
    match g.node i with
    | .scalar _ s => .ok s
    | .mapping _ fields =>
      match fields.find? fun f => (g.node f.1).tag = .default with
      | some (_, v) => g.text fuel v
      | none => .error .malformed
    | .sequence _ _ => .error .malformed

/-! ## Merging -/

/-- The first merge among fields: the number of what is merged, and the other fields. -/
def takeMerge (g : Graph) : List (Nat × Nat) → Option (Nat × List (Nat × Nat))
  | [] => none
  | (k, v) :: fs =>
    if (g.node k).tag = .merge then some (v, fs)
    else (g.takeMerge fs).map fun (source, rest) => (source, (k, v) :: rest)

/-- The graph where the sign for the value of the whole is an ordinary text as a key of fields. -/
def withPlainKeys (g : Graph) (fields : List (Nat × Nat)) : Graph :=
  fields.foldl (fun g f =>
    if (g.node f.1).tag = .default then g.set f.1 ((g.node f.1).withTag .str) else g) g

mutual

/-- The graph where nothing is left to be merged into a record, after the fields `before` have been
merged into it. -/
def mergeInto : (fuel : Nat) → (i : Nat) → (before : List (Nat × Nat)) → Graph →
    Except Fault Graph
  | 0, _, _, _ => .error .malformed
  | fuel + 1, i, before, g =>
    match g.takeMerge (g.fields i) with
    | none =>
      let fields := before ++ g.fields i
      .ok ((g.setFields i fields).withPlainKeys fields)
    | some (source, rest) => do
      let g := g.setFields i rest
      match g.node source with
      | .mapping _ _ =>
        let g ← mergeInto fuel source [] g
        mergeInto fuel i (before ++ g.fields source) g
      | .sequence _ items =>
        let (merged, g) ← mergeAll fuel items g
        mergeInto fuel i (before ++ merged) g
      | .scalar _ _ => throw .malformed

/-- The fields of several records into which nothing is left to be merged, those of the first record
last. -/
def mergeAll : (fuel : Nat) → List Nat → Graph → Except Fault (List (Nat × Nat) × Graph)
  | _, [], g => .ok ([], g)
  | 0, _ :: _, _ => .error .malformed
  | fuel + 1, i :: is, g =>
    match g.node i with
    | .mapping _ _ => do
      let g ← mergeInto fuel i [] g
      let here := g.fields i
      let (rest, g) ← mergeAll fuel is g
      return (rest ++ here, g)
    | _ => .error .malformed

end

/-- The number of all items and fields. -/
def degree (g : Graph) : Nat :=
  g.nodes.foldl (fun n node => n + node.degree) 0

/-- A number of steps in which any merging comes to its end: every step takes a merge away or goes
on to the next item of a list. -/
def mergeSteps (g : Graph) : Nat :=
  (g.degree + 1) * (g.degree + 2)

end Graph

end NaturalDeduction.Yaml
