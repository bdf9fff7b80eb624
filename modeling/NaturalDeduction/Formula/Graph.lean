import NaturalDeduction.Formula.Printer

/-!
# Formulas with shared parts

A formula put together by hand may use one and the same part at several places. A `Graph` keeps each
part once, as a node under a number, and a node refers to its operands by their numbers. Operands
are made before the formulas they are used in, so they have smaller numbers, and every node stands
for a tree (`Graph.unfold`).

The text of a node is found without recursion on the tree (`Graph.render`). A stack holds the nodes
that are still to be written, and a table the texts that are done. A node that is met for the first
time is put back below its operands; when it is met again its operands are in the table and its text
is composed from theirs. Each node is composed once, however often it is used. The loop ends because
a node is replaced by nodes with smaller numbers, which weigh less together (`weight_operands`).
-/

namespace NaturalDeduction

/-- A formula whose operands are given by their numbers. -/
inductive Node where
  /-- A propositional variable. -/
  | atom (name : Letter)
  /-- A predicate symbol applied to at least one term. -/
  | predicate (symbol : PredicateSymbol) (first : Term) (others : List Term)
  /-- The negation of a node. -/
  | not (arg : Nat)
  /-- Two nodes joined by a connective. -/
  | binary (op : Connective) (lhs rhs : Nat)
  /-- A quantifier, the variable it binds and the node in its scope. -/
  | quantified (q : Quantifier) (var : Letter) (scope : Nat)
deriving DecidableEq

namespace Node

/-- The numbers of the operands. -/
def operands : Node → List Nat
  | atom _ => []
  | predicate _ _ _ => []
  | not i => [i]
  | binary _ i j => [i, j]
  | quantified _ _ i => [i]

/-- Variables and predicates have no operator. -/
def isAtomic : Node → Bool
  | atom _ => true
  | predicate _ _ _ => true
  | _ => false

end Node

/-- Nodes in the order in which they were made. -/
structure Graph where
  /-- The nodes; the number of a node is its position. -/
  nodes : Array Node
  /-- Operands are made before the nodes that use them. -/
  ordered : ∀ i (h : i < nodes.size), ∀ j ∈ nodes[i].operands, j < i

namespace Graph

/-- The graph without nodes. -/
def empty : Graph :=
  ⟨#[], by intro i h; simp at h⟩

/-- A graph with one more node, whose operands are in the graph. -/
def push (g : Graph) (n : Node) (hn : ∀ j ∈ n.operands, j < g.nodes.size) : Graph where
  nodes := g.nodes.push n
  ordered := by
    intro i h j hj
    rw [Array.getElem_push] at hj
    split at hj
    · exact g.ordered i _ j hj
    · have := hn j hj
      simp only [Array.size_push] at h
      omega

/-- A node that is added is one node more. -/
@[simp] theorem size_push (g : Graph) (n : Node) (hn : ∀ j ∈ n.operands, j < g.nodes.size) :
    (g.push n hn).nodes.size = g.nodes.size + 1 := by
  simp [push]

/-! ## Trees and nodes -/

/-- The tree that a node stands for. -/
def unfold (g : Graph) (i : Nat) (h : i < g.nodes.size) : Formula :=
  match hn : g.nodes[i] with
  | .atom a => .atom a
  | .predicate P t ts => .predicate P t ts
  | .not j =>
    have hj : j < i := g.ordered i h j (by simp [hn, Node.operands])
    .not (g.unfold j (by omega))
  | .binary op j k =>
    have hj : j < i := g.ordered i h j (by simp [hn, Node.operands])
    have hk : k < i := g.ordered i h k (by simp [hn, Node.operands])
    .binary op (g.unfold j (by omega)) (g.unfold k (by omega))
  | .quantified q v j =>
    have hj : j < i := g.ordered i h j (by simp [hn, Node.operands])
    .quantified q v (g.unfold j (by omega))
termination_by i

/-- A graph with at least `size` nodes, and one of its nodes. -/
structure Extension (size : Nat) where
  /-- The graph. -/
  graph : Graph
  /-- The number of the node. -/
  index : Nat
  /-- The node is in the graph. -/
  index_lt : index < graph.nodes.size
  /-- No node was lost. -/
  size_le : size ≤ graph.nodes.size

/-- One more node, which is the node of the extension. -/
def extend (g : Graph) (size : Nat) (hs : size ≤ g.nodes.size) (n : Node)
    (hn : ∀ j ∈ n.operands, j < g.nodes.size) : Extension size where
  graph := g.push n hn
  index := g.nodes.size
  index_lt := by rw [size_push]; omega
  size_le := by rw [size_push]; omega

/-- A graph with a node for each part of a tree, and the node of the whole, which comes last. -/
def insert (g : Graph) : Formula → Extension g.nodes.size
  | .atom a => g.extend _ (Nat.le_refl _) (.atom a) (by simp [Node.operands])
  | .predicate P t ts => g.extend _ (Nat.le_refl _) (.predicate P t ts) (by simp [Node.operands])
  | .not f =>
    let e := g.insert f
    e.graph.extend _ e.size_le (.not e.index) (by simpa [Node.operands] using e.index_lt)
  | .binary op l r =>
    let e := g.insert l
    let e' := e.graph.insert r
    e'.graph.extend _ (Nat.le_trans e.size_le e'.size_le) (.binary op e.index e'.index) (by
      have := e.index_lt
      have := e'.index_lt
      have := e'.size_le
      simp only [Node.operands, List.mem_cons, List.not_mem_nil, or_false, forall_eq_or_imp,
        forall_eq]
      omega)
  | .quantified q v f =>
    let e := g.insert f
    e.graph.extend _ e.size_le (.quantified q v e.index) (by
      simpa [Node.operands] using e.index_lt)

/-! ## Rendering with a stack -/

/-- The texts that are done, with the numbers of their nodes; the latest comes first. -/
abbrev Rendered : Type := List (Nat × List Char)

/-- The text of an operand, in parentheses unless it is atomic; nothing if it is not done. -/
def operandText? (g : Graph) (done : Rendered) (i : Nat) : Option (List Char) := do
  let n ← g.nodes[i]?
  let text ← done.lookup i
  some (if n.isAtomic then text else '(' :: (text ++ [')']))

/-- The text of a node from the texts of its operands; nothing if one of them is not done. -/
def compose? (g : Graph) (sp : Spacing) (done : Rendered) : Node → Option (List Char)
  | .atom a => some [a.char]
  | .predicate P t ts => some (P.char :: '(' :: (writeTerms t ts ++ [')']))
  | .not i => (g.operandText? done i).map ('~' :: ·)
  | .binary op i j => do
    let left ← g.operandText? done i
    let right ← g.operandText? done j
    some (left ++ op.chars sp ++ right)
  | .quantified q v i =>
    (done.lookup i).map fun text => q.symbol :: v.char :: '(' :: (text ++ [')'])

/-- A node on the stack, and whether its operands have been put there. -/
structure Pending where
  /-- The number of the node. -/
  index : Nat
  /-- Whether it has been met before. -/
  expanded : Bool

/-- The weight of what stands below a number: each number weighs three times as much as the one
before it, more than two operands and the node itself. -/
def weightBelow : Nat → Nat
  | 0 => 1
  | n + 1 => 3 * weightBelow n

/-- The weight of a node on the stack. -/
def Pending.weight (p : Pending) : Nat :=
  if p.expanded then 1 else weightBelow (p.index + 1)

/-- The weight of a stack. -/
def stackWeight : List Pending → Nat
  | [] => 0
  | p :: stack => p.weight + stackWeight stack

/-- What stands below a number has some weight, even if it is nothing. -/
theorem weightBelow_pos (n : Nat) : 0 < weightBelow n := by
  induction n with
  | zero => decide
  | succ n ih =>
    rw [weightBelow]
    omega

/-- What stands below a greater number weighs no less. -/
theorem weightBelow_mono {m n : Nat} (h : m ≤ n) : weightBelow m ≤ weightBelow n := by
  induction h with
  | refl => exact Nat.le_refl _
  | step _ ih =>
    rw [weightBelow]
    omega

/-- Every node on the stack has some weight, so taking it off makes the stack lighter. -/
theorem Pending.weight_pos (p : Pending) : 0 < p.weight := by
  unfold weight
  split
  · omega
  · exact weightBelow_pos _

/-- The weight of a stack is the sum of the weights of its parts. -/
theorem stackWeight_append (a b : List Pending) :
    stackWeight (a ++ b) = stackWeight a + stackWeight b := by
  induction a with
  | nil => simp [stackWeight]
  | cons p a ih =>
    simp only [List.cons_append, stackWeight, ih]
    omega

/-- A node that has not been met weighs no more than what stands below any greater number. -/
theorem weight_le_of_lt {i j : Nat} (h : j < i) : (Pending.mk j false).weight ≤ weightBelow i := by
  simp only [Pending.weight, Bool.false_eq_true, if_false]
  exact weightBelow_mono h

/-- The operands of a node weigh less than the node, by more than the node that is put back. -/
theorem weight_operands {n : Node} {i : Nat} (h : ∀ j ∈ n.operands, j < i) :
    stackWeight (n.operands.reverse.map (Pending.mk · false)) + 1 <
      (Pending.mk i false).weight := by
  have hpos := weightBelow_pos i
  have hw : (Pending.mk i false).weight = 3 * weightBelow i := by
    simp [Pending.weight, weightBelow]
  rw [hw]
  cases n with
  | atom a => simp [Node.operands, stackWeight]; omega
  | predicate P t ts => simp [Node.operands, stackWeight]; omega
  | not j =>
    have := weight_le_of_lt (h j (by simp [Node.operands]))
    simp [Node.operands, stackWeight]
    omega
  | binary op j k =>
    have hj := h j (by simp [Node.operands])
    have := weight_le_of_lt hj
    have := weight_le_of_lt (h k (by simp [Node.operands]))
    have hi : weightBelow 1 ≤ weightBelow i := weightBelow_mono (by omega)
    simp only [weightBelow] at hi
    simp [Node.operands, stackWeight]
    omega
  | quantified q v j =>
    have := weight_le_of_lt (h j (by simp [Node.operands]))
    simp [Node.operands, stackWeight]
    omega

/-- Works the stack off and gives the table of all texts, or nothing if a text was missing when it
was needed. -/
def renderStack (g : Graph) (sp : Spacing) (stack : List Pending) (done : Rendered) :
    Option Rendered :=
  match stack with
  | [] => some done
  | p :: stack =>
    if (done.lookup p.index).isSome then g.renderStack sp stack done
    else if h : p.index < g.nodes.size then
      let n := g.nodes[p.index]
      if p.expanded || n.isAtomic then
        match g.compose? sp done n with
        | some text => g.renderStack sp stack ((p.index, text) :: done)
        | none => none
      else
        g.renderStack sp
          (n.operands.reverse.map (Pending.mk · false) ++ Pending.mk p.index true :: stack) done
    else none
termination_by stackWeight stack
decreasing_by
  · have := p.weight_pos
    simp only [stackWeight]
    omega
  · have := p.weight_pos
    simp only [stackWeight]
    omega
  · next hcond =>
    have hw := weight_operands (g.ordered p.index h)
    have hp : p.weight = (Pending.mk p.index false).weight := by
      simp only [Bool.or_eq_true, not_or, Bool.not_eq_true] at hcond
      simp [Pending.weight, hcond.1]
    have h1 : (Pending.mk p.index true).weight = 1 := by simp [Pending.weight]
    simp only [stackWeight_append]
    simp only [stackWeight] at hw ⊢
    rw [hp, h1]
    omega

/-- The text of a node. -/
def render (g : Graph) (sp : Spacing) (i : Nat) : Option (List Char) := do
  let done ← g.renderStack sp [⟨i, false⟩] []
  done.lookup i

end Graph

end NaturalDeduction
