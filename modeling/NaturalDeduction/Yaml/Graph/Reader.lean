import NaturalDeduction.Yaml.Graph
import NaturalDeduction.Yaml.Token

/-!
# Reading the graph of a YAML document

The tokens of a document make up its graph (`Graph.ofTokens`). A list or a record has its number
before its parts are read, so that its name can be used inside of it.

There is one document in a text, or none. Every step over the tokens takes one of them or goes to a
part that has fewer ways to begin, so that a multiple of their number is enough fuel. Parts may not
be nested too deep.
-/

namespace NaturalDeduction.Yaml

namespace Graph

/-- What is left of the tokens, the names, and the parts so far. -/
structure Reader where
  /-- The tokens. -/
  tokens : List Token
  /-- What the handles of tags stand for. -/
  handles : List (String × String)
  /-- The numbers of the parts that have a name. -/
  anchors : List (String × Nat)
  /-- The parts. -/
  nodes : Array Node

namespace Reader

/-- The reader after its first token. -/
def next (r : Reader) : Reader :=
  { r with tokens := r.tokens.drop 1 }

/-- A further part, which may have a name. -/
def add (r : Reader) (name : Option String) (n : Node) : Nat × Reader :=
  let i := r.nodes.size
  let anchors :=
    match name with
    | some name => (name, i) :: r.anchors
    | none => r.anchors
  (i, { r with anchors, nodes := r.nodes.push n })

/-- The reader with the part that a number was given to before. -/
def finish (r : Reader) (i : Nat) (n : Node) : Nat × Reader :=
  (i, { r with nodes := r.nodes.setIfInBounds i n })

/-- The name of the tag that is written, in full. -/
def resolve (r : Reader) (t : TagName) : Except Fault String :=
  match t.handle with
  | none => .ok t.suffix
  | some handle =>
    match r.handles.lookup handle with
    | some meaning => .ok (meaning ++ t.suffix)
    | none => .error .malformed

end Reader

/-- What comes before a part: a name and a tag, in either order. -/
def properties (r : Reader) : Option String × Option TagName × Reader :=
  match r.tokens with
  | .anchor a :: .tag t :: _ => (some a, some t, r.next.next)
  | .anchor a :: _ => (some a, none, r.next)
  | .tag t :: .anchor a :: _ => (some a, some t, r.next.next)
  | .tag t :: _ => (none, some t, r.next)
  | _ => (none, none, r)

/-- The tag of a part: the one that is written, unless it says nothing. -/
def tagOr (written : Option String) (usual : Tag) : Tag :=
  match written with
  | none => usual
  | some "!" => usual
  | some s => .ofName s

/-- The tag of a text, which may be plain. The tag that says nothing makes any text a plain one. -/
def scalarTag (written : Option String) (plain : Bool) (text : List Char) : Tag :=
  tagOr written (if plain || written == some "!" then .ofPlain text else .str)

/-- Whether the next token ends an item that is left out: another dash or the end of the list. -/
def endsItem : Token → Bool
  | .dash => true
  | .blockEnd => true
  | _ => false

/-- Whether the next token ends a part of a field that is left out: another field or the end of the
record. -/
def endsField : Token → Bool
  | .key => true
  | .value => true
  | .blockEnd => true
  | _ => false

/-- Whether the next token ends an item, of a list that has no column of its own, that is left
out. -/
def endsLooseItem (t : Token) : Bool :=
  endsItem t || endsField t

/-- Whether the next token ends a part between brackets or braces that is left out. -/
def endsFlow (close : Token → Bool) (t : Token) : Bool :=
  close t ||
    match t with
    | .comma => true
    | _ => false

/-- The closing bracket. -/
def isCloseBracket : Token → Bool
  | .closeBracket => true
  | _ => false

/-- The closing brace. -/
def isCloseBrace : Token → Bool
  | .closeBrace => true
  | _ => false

/-- The colon before a value. -/
def isValue : Token → Bool
  | .value => true
  | _ => false

/-- Whether the next token satisfies a test. -/
def nextIs (test : Token → Bool) (r : Reader) : Bool :=
  match r.tokens with
  | t :: _ => test t
  | [] => false

/-- How deep parts may be nested. -/
def depthLimit : Nat := 485

mutual

/-- A part inside of `depth` lists and records. Only where lines count (`block`) may it be laid out
in lines, and only after a key may it be a list whose dashes stand in the column of the key
(`loose`). -/
def read : (fuel depth : Nat) → (block loose : Bool) → Reader → Except Fault (Nat × Reader)
  | 0, _, _, _, _ => .error .malformed
  | fuel + 1, depth, block, loose, r =>
    if depthLimit < depth then .error .tooDeep
    else
    match r.tokens with
    | .alias name :: _ =>
      match r.anchors.lookup name with
      | some i => .ok (i, r.next)
      | none => .error .malformed
    | _ => do
      let (anchor, written, r) := properties r
      let tag ←
        match written with
        | some t => (r.resolve t).map some
        | none => .ok none
      if anchor.any fun a => (r.anchors.lookup a).isSome then throw .malformed
      let isLoose := loose && nextIs (fun t => match t with | .dash => true | _ => false) r
      match r.tokens with
      | .scalar text plain :: _ =>
        return r.next.add anchor (.scalar (scalarTag tag plain text) text)
      | .openBracket :: _ =>
        let (i, r) := r.next.add anchor .empty
        let (items, r) ← readFlowItems fuel (depth + 1) true r
        return r.finish i (.sequence (tagOr tag .seq) items)
      | .openBrace :: _ =>
        let (i, r) := r.next.add anchor .empty
        let (fields, r) ← readFlowFields fuel (depth + 1) true r
        return r.finish i (.mapping (tagOr tag .map) fields)
      | .listStart :: _ =>
        if block then
          let (i, r) := r.next.add anchor .empty
          let (items, r) ← readItems fuel (depth + 1) r
          return r.finish i (.sequence (tagOr tag .seq) items)
        else throw .malformed
      | .recordStart :: _ =>
        if block then
          let (i, r) := r.next.add anchor .empty
          let (fields, r) ← readFields fuel (depth + 1) r
          return r.finish i (.mapping (tagOr tag .map) fields)
        else throw .malformed
      | _ =>
        if isLoose then
          let (i, r) := r.add anchor .empty
          let (items, r) ← readLooseItems fuel (depth + 1) r
          return r.finish i (.sequence (tagOr tag .seq) items)
        else if anchor.isSome || tag.isSome then
          return r.add anchor (.scalar (scalarTag tag (tag.isNone) []) [])
        else throw .malformed

/-- A part, unless the next token says that it is left out. -/
def readUnless : (fuel depth : Nat) → (ends : Token → Bool) → (block loose : Bool) → Reader →
    Except Fault (Nat × Reader)
  | 0, _, _, _, _, _ => .error .malformed
  | fuel + 1, depth, ends, block, loose, r =>
    if nextIs ends r then .ok (r.add none .empty) else read fuel depth block loose r

/-- The value of a field, which may be left out together with its colon. -/
def readValue : (fuel depth : Nat) → (ends : Token → Bool) → (block : Bool) → Reader →
    Except Fault (Nat × Reader)
  | 0, _, _, _, _ => .error .malformed
  | fuel + 1, depth, ends, block, r =>
    if nextIs isValue r then readUnless fuel depth ends block block r.next
    else .ok (r.add none .empty)

/-- The items of a list in lines. -/
def readItems : (fuel depth : Nat) → Reader → Except Fault (List Nat × Reader)
  | 0, _, _ => .error .malformed
  | fuel + 1, depth, r =>
    match r.tokens with
    | .dash :: _ => do
      let (n, r) ← readUnless fuel depth endsItem true false r.next
      let (ns, r) ← readItems fuel depth r
      return (n :: ns, r)
    | .blockEnd :: _ => .ok ([], r.next)
    | _ => .error .malformed

/-- The items of a list that has no column of its own. -/
def readLooseItems : (fuel depth : Nat) → Reader → Except Fault (List Nat × Reader)
  | 0, _, _ => .error .malformed
  | fuel + 1, depth, r =>
    match r.tokens with
    | .dash :: _ => do
      let (n, r) ← readUnless fuel depth endsLooseItem true false r.next
      let (ns, r) ← readLooseItems fuel depth r
      return (n :: ns, r)
    | _ => .ok ([], r)

/-- The fields of a record in lines. -/
def readFields : (fuel depth : Nat) → Reader → Except Fault (List (Nat × Nat) × Reader)
  | 0, _, _ => .error .malformed
  | fuel + 1, depth, r =>
    match r.tokens with
    | .key :: _ => do
      let (k, r) ← readUnless fuel depth endsField true true r.next
      let (v, r) ← readValue fuel depth endsField true r
      let (fs, r) ← readFields fuel depth r
      return ((k, v) :: fs, r)
    | .blockEnd :: _ => .ok ([], r.next)
    | _ => .error .malformed

/-- The items between brackets. A single field among them is a record. -/
def readFlowItems : (fuel depth : Nat) → (first : Bool) → Reader →
    Except Fault (List Nat × Reader)
  | 0, _, _, _ => .error .malformed
  | fuel + 1, depth, first, r =>
    if nextIs isCloseBracket r then .ok ([], r.next)
    else do
      let r ←
        if first then pure r
        else
          match r.tokens with
          | .comma :: _ => pure r.next
          | _ => throw .malformed
      if nextIs isCloseBracket r then return ([], r.next)
      let (n, r) ←
        match r.tokens with
        | .key :: _ => do
          let (k, r) ←
            readUnless fuel (depth + 1) (fun t => isValue t || endsFlow isCloseBracket t) false false
              r.next
          let (v, r) ← readValue fuel (depth + 1) (endsFlow isCloseBracket) false r
          pure (r.add none (.mapping .map [(k, v)]))
        | _ => read fuel depth false false r
      let (ns, r) ← readFlowItems fuel depth false r
      return (n :: ns, r)

/-- The fields between braces. A key may stand without a value. -/
def readFlowFields : (fuel depth : Nat) → (first : Bool) → Reader →
    Except Fault (List (Nat × Nat) × Reader)
  | 0, _, _, _ => .error .malformed
  | fuel + 1, depth, first, r =>
    if nextIs isCloseBrace r then .ok ([], r.next)
    else do
      let r ←
        if first then pure r
        else
          match r.tokens with
          | .comma :: _ => pure r.next
          | _ => throw .malformed
      if nextIs isCloseBrace r then return ([], r.next)
      let (f, r) ←
        match r.tokens with
        | .key :: _ => do
          let (k, r) ←
            readUnless fuel depth (fun t => isValue t || endsFlow isCloseBrace t) false false r.next
          let (v, r) ← readValue fuel depth (endsFlow isCloseBrace) false r
          pure ((k, v), r)
        | _ => do
          let (k, r) ← read fuel depth false false r
          let (v, r) := r.add none .empty
          pure ((k, v), r)
      let (fs, r) ← readFlowFields fuel depth false r
      return (f :: fs, r)

end

/-! ## Documents -/

/-- The handles that are always known. -/
def usualHandles : List (String × String) :=
  [("!", "!"), ("!!", Tag.common)]

/-- The instructions before a document, and the tokens after them. The version must be one of the
first series, and nothing may be said twice. -/
def instructions (versions : Nat) (handles : List (String × String)) :
    List Token → Except Fault (List (String × String) × List Token)
  | .version major :: ts =>
    if versions = 0 ∧ major = 1 then instructions (versions + 1) handles ts
    else .error .malformed
  | .handle name meaning :: ts =>
    if (handles.lookup name).isSome then .error .malformed
    else instructions versions ((name, meaning) :: handles) ts
  | .instruction :: ts => instructions versions handles ts
  | ts => .ok (handles, ts)

/-- Whether nothing is left of the tokens but marks after a document. -/
def atEnd : List Token → Bool
  | .documentEnd :: ts => atEnd ts
  | [.streamEnd] => true
  | _ => false

/-- Whether a document ends where it begins. -/
def isEmptyDocument : List Token → Bool
  | .documentStart :: _ => true
  | .documentEnd :: _ => true
  | .streamEnd :: _ => true
  | .version _ :: _ => true
  | .handle _ _ :: _ => true
  | .instruction :: _ => true
  | _ => false

/-- The document that tokens make up, by its parts and the number of the whole; a text without a
document has none. -/
def ofTokens (ts : List Token) : Except Fault (Option (Graph × Nat)) := do
  let fuel := 4 * ts.length + 4
  let whole (handles : List (String × String)) (ts : List Token) : Except Fault (Graph × Nat) := do
    let (i, r) ← read fuel 0 true false ⟨ts, handles, [], #[]⟩
    if atEnd r.tokens then return (⟨r.nodes⟩, i) else throw .malformed
  let isStart (t : Token) : Bool := isEmptyDocument [t] &&
    match t with
    | .documentEnd => false
    | _ => true
  match ts with
  | [.streamEnd] => return none
  | t :: _ =>
    if isStart t then
      let (handles, rest) ← instructions 0 [] ts
      match rest with
      | .documentStart :: rest =>
        if isEmptyDocument rest then
          if atEnd rest then return some (⟨#[.empty]⟩, 0) else throw .malformed
        else return some (← whole (handles ++ usualHandles) rest)
      | _ => throw .malformed
    else return some (← whole usualHandles ts)
  | [] => throw .malformed

end Graph

end NaturalDeduction.Yaml
