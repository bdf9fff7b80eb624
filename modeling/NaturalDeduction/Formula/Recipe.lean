import NaturalDeduction.Formula.Construct
import NaturalDeduction.Formula.Graph
import NaturalDeduction.Value.Bits

/-!
# Putting formulas together by hand

A `Recipe` says step by step how a formula is made: read from a text, taken from a value, or put
together from earlier results with a constructor or an operator. Following it (`Recipe.follow`)
fills a graph, in which a result that is used twice is one node. The parts of a step are made from
left to right, and then the step itself may fail, because a part is not a formula.

A formula that was read remembers its text; one that was put together has none. A step that hands on
a node hands on this memory with it.
-/

namespace NaturalDeduction

/-- How to make a formula. -/
inductive Recipe where
  /-- The value itself, which is not a formula. -/
  | raw (v : Value)
  /-- The formula read from a text. -/
  | parse (v : Value)
  /-- A propositional variable. -/
  | atom (name : Value)
  /-- A predicate from a symbol and terms. -/
  | predicate (symbol terms : Value)
  /-- A predicate read from a text. -/
  | predicateText (v : Value)
  /-- A negation. -/
  | not (arg : Recipe)
  /-- `n` negations. -/
  | negations (n : Nat) (arg : Recipe)
  /-- A negation, or the argument of one. -/
  | negate (arg : Recipe)
  /-- A connective between two results. -/
  | binary (op : Connective) (lhs rhs : Recipe)
  /-- A connective between a result and itself. -/
  | twice (op : Connective) (arg : Recipe)
  /-- A constructor for a result that cannot take it, whatever it is. -/
  | misapplied (arg : Recipe)
  /-- A quantifier between a result and itself, where a variable should be. -/
  | quantifiedTwice (q : Quantifier) (arg : Recipe)
  /-- A quantifier in front of a result. -/
  | quantified (q : Quantifier) (var : Value) (scope : Recipe)
  /-- The dual operator on the operands of a result. -/
  | dual (arg : Recipe)
  /-- A result that may be a formula already or the text of one. -/
  | convert (arg : Recipe)
  /-- The operator sign of negation in front of a result. -/
  | signNot (arg : Recipe)
  /-- An operator sign between two results. If the first one is a formula, this is the connective,
  and with `swapped` the operands change sides; between other values signs have meanings of their
  own. -/
  | signBinary (op : Connective) (swapped : Bool) (lhs rhs : Recipe)

/-- A graph in which some nodes remember the text they were read from. -/
structure Stock where
  /-- The nodes. -/
  graph : Graph
  /-- The texts, by the numbers of the nodes. -/
  sources : List (Nat × String)

/-- A result: a value, or a node of a graph with `size` nodes. -/
inductive Outcome (size : Nat) where
  /-- A value that is not a formula. -/
  | value (v : Value)
  /-- A node. -/
  | node (index : Nat) (h : index < size)

/-- A stock with at least `size` nodes, and a result. -/
structure Product (size : Nat) where
  /-- The stock after the step. -/
  stock : Stock
  /-- No node was lost. -/
  size_le : size ≤ stock.graph.nodes.size
  /-- What was made. -/
  outcome : Outcome stock.graph.nodes.size

namespace Product

/-- The result of an earlier step, seen from further back. -/
def widen {size size' : Nat} (h : size ≤ size') (p : Product size') : Product size :=
  ⟨p.stock, Nat.le_trans h p.size_le, p.outcome⟩

end Product

namespace Stock

/-- The stock without nodes. -/
def empty : Stock :=
  ⟨.empty, []⟩

/-- The number of nodes. -/
def size (s : Stock) : Nat :=
  s.graph.nodes.size

/-- A value, without any new node. -/
def value (s : Stock) (v : Value) : Product s.size :=
  ⟨s, Nat.le_refl _, .value v⟩

/-- A node that is there already. -/
def node (s : Stock) (i : Nat) (h : i < s.size) : Product s.size :=
  ⟨s, Nat.le_refl _, .node i h⟩

/-- A new node. -/
def make (s : Stock) (n : Node) (h : ∀ j ∈ n.operands, j < s.size) : Product s.size :=
  let e := s.graph.extend _ (Nat.le_refl _) n h
  ⟨⟨e.graph, s.sources⟩, e.size_le, .node e.index e.index_lt⟩

/-- New nodes for a whole tree, where the last one remembers a text. -/
def insert (s : Stock) (f : Formula) (source : Option String) : Product s.size :=
  let e := s.graph.insert f
  let sources :=
    match source with
    | some text => (e.index, text) :: s.sources
    | none => s.sources
  ⟨⟨e.graph, sources⟩, e.size_le, .node e.index e.index_lt⟩

/-- The name of the constructor of a connective. -/
def connectiveName : Connective → String
  | .or => "Or"
  | .and => "And"
  | .implies => "Implies"
  | .equivalent => "Equivalent"

/-- The name of the constructor of a quantifier. -/
def quantifierName : Quantifier → String
  | .existential => "Ex"
  | .universal => "All"

/-- The negation of a result. -/
def makeNot (s : Stock) : Outcome s.size → Except Error (Product s.size)
  | .value v => .error (.notOperand "Not" v)
  | .node i h => .ok (s.make (.not i) (by simpa [Node.operands] using h))

/-- `n` negations of a result. -/
def makeNots : (n : Nat) → (s : Stock) → Outcome s.size → Except Error (Product s.size)
  | 0, s, o => .ok ⟨s, Nat.le_refl _, o⟩
  | n + 1, s, o => do
    let p ← s.makeNot o
    let q ← makeNots n p.stock p.outcome
    .ok (q.widen p.size_le)

/-- A connective between two results; the left one is looked at first. -/
def makeBinary (s : Stock) (op : Connective) :
    Outcome s.size → Outcome s.size → Except Error (Product s.size)
  | .value v, _ => .error (.notOperand (connectiveName op) v)
  | .node _ _, .value v => .error (.notOperand (connectiveName op) v)
  | .node i hi, .node j hj => .ok (s.make (.binary op i j) (by simpa [Node.operands] using ⟨hi, hj⟩))

/-- A quantifier in front of a result; the variable is looked at first. -/
def makeQuantified (s : Stock) (q : Quantifier) (var : Value) (o : Outcome s.size) :
    Except Error (Product s.size) :=
  match Formula.letterOf? var, o with
  | none, _ => .error (.notVariable var)
  | some _, .value v => .error (.notScope (quantifierName q) v)
  | some a, .node i h => .ok (s.make (.quantified q a i) (by simpa [Node.operands] using h))

/-- The dual of a result: conjunction and disjunction and the two quantifiers have one. -/
def makeDual (s : Stock) : Outcome s.size → Except Error (Product s.size)
  | .value _ => .error .noOperation
  | .node i h =>
    match hn : s.graph.nodes[i] with
    | .binary op j k =>
      match op.dual? with
      | some dual => .ok (s.make (.binary dual j k) fun m hm =>
          Nat.lt_trans (s.graph.ordered i h m (by simpa [hn, Node.operands] using hm)) h)
      | none => .error .noOperation
    | .quantified q v j => .ok (s.make (.quantified q.dual v j) fun m hm =>
        Nat.lt_trans (s.graph.ordered i h m (by simpa [hn, Node.operands] using hm)) h)
    | _ => .error .noOperation

/-- The argument of a negation, or else the negation of a result. -/
def makeNegate (s : Stock) : Outcome s.size → Except Error (Product s.size)
  | .value v => s.makeNot (.value v)
  | .node i h =>
    match hn : s.graph.nodes[i] with
    | .not j =>
      .ok (s.node j (Nat.lt_trans (s.graph.ordered i h j (by simp [hn, Node.operands])) h))
    | _ => s.makeNot (.node i h)

/-- The written form of a result as a value. -/
def spelledOut (s : Stock) : Outcome s.size → Value
  | .value v => v
  | .node i h => .other (String.ofList (s.graph.unfold i h).constructorForm)

end Stock

/-- Follows a recipe, adding to a stock. -/
def Recipe.follow (s : Stock) : Recipe → Except Error (Product s.size)
  | .raw v => .ok (s.value v)
  | .parse v => do
    let f ← (Formula.parseValue .standard v).mapError .parse
    .ok (s.insert f v.toText?)
  | .atom name => return s.insert (← Formula.atomOf name) none
  | .predicate symbol terms => return s.insert (← Formula.predicateOf symbol terms) none
  | .predicateText v => return s.insert (← Formula.predicateOfText v) none
  | .not arg => do
    let p ← arg.follow s
    return (← p.stock.makeNot p.outcome).widen p.size_le
  | .negations n arg => do
    let p ← arg.follow s
    return (← Stock.makeNots n p.stock p.outcome).widen p.size_le
  | .negate arg => do
    let p ← arg.follow s
    return (← p.stock.makeNegate p.outcome).widen p.size_le
  | .binary op lhs rhs => do
    let p ← lhs.follow s
    let q ← rhs.follow p.stock
    let left : Outcome q.stock.size :=
      match p.outcome with
      | .value v => .value v
      | .node i h => .node i (Nat.lt_of_lt_of_le h q.size_le)
    return (← q.stock.makeBinary op left q.outcome).widen (Nat.le_trans p.size_le q.size_le)
  | .twice op arg => do
    let p ← arg.follow s
    return (← p.stock.makeBinary op p.outcome p.outcome).widen p.size_le
  | .misapplied arg => do
    let _ ← arg.follow s
    .error .wrongKind
  | .quantifiedTwice q arg => do
    let p ← arg.follow s
    return (← p.stock.makeQuantified q (p.stock.spelledOut p.outcome) p.outcome).widen p.size_le
  | .quantified q var scope => do
    let p ← scope.follow s
    return (← p.stock.makeQuantified q var p.outcome).widen p.size_le
  | .dual arg => do
    let p ← arg.follow s
    return (← p.stock.makeDual p.outcome).widen p.size_le
  | .convert arg => do
    let p ← arg.follow s
    match p.outcome with
    | .node _ _ => return p
    | .value v => return (p.stock.insert (← Formula.ofValue v) v.toText?).widen p.size_le
  | .signNot arg => do
    let p ← arg.follow s
    match p.outcome with
    | .node i h => return (← p.stock.makeNot (.node i h)).widen p.size_le
    | .value v => return (p.stock.value (← v.signNot)).widen p.size_le
  | .signBinary op swapped lhs rhs => do
    let p ← lhs.follow s
    let q ← rhs.follow p.stock
    match p.outcome with
    | .value v =>
      match q.outcome with
      | .value w =>
        let made := q.stock.value (← v.signBinary op swapped w)
        return made.widen (Nat.le_trans p.size_le q.size_le)
      | .node _ _ => .error .wrongKind
    | .node i h =>
      let left : Outcome q.stock.size := .node i (Nat.lt_of_lt_of_le h q.size_le)
      let made ←
        if swapped then q.stock.makeBinary op q.outcome left
        else q.stock.makeBinary op left q.outcome
      return made.widen (Nat.le_trans p.size_le q.size_le)

/-- A formula that was made, with its texts and the text it was read from. -/
structure Made where
  /-- The formula as a tree. -/
  formula : Formula
  /-- The canonical form, rendered from the nodes. -/
  canonical : Option (List Char)
  /-- The pretty form, rendered from the nodes. -/
  pretty : Option (List Char)
  /-- The text it was read from, if it was read. -/
  source : Option String

/-- Follows a recipe that must end with a formula. -/
def Recipe.make (r : Recipe) : Except Error Made := do
  let p ← r.follow .empty
  match p.outcome with
  | .value _ => .error .noOperation
  | .node i h =>
    .ok ⟨p.stock.graph.unfold i h, p.stock.graph.render .tight i, p.stock.graph.render .wide i,
      p.stock.sources.lookup i⟩

end NaturalDeduction
