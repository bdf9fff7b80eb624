import Mathlib.Data.Fintype.Sort
import Mathlib.Logic.Relation
import Mathlib.Order.Extension.Linear
import NaturalDeduction.Formula.Graph
import NaturalDeduction.Proofs.Outcome

/-!
# Rendering with a stack agrees with recursion

A node of a graph is rendered by a loop with a stack and a table of texts. Parts may be shared, so a
node can be on the stack several times, and when its turn comes its text may be there already.

What carries the argument is that the loop never depends on what lies further down in the stack.
Nodes at the top of it are worked off with nothing else touched: some texts are added to the table,
those of the nodes and of nodes they are made of, and the loop goes on as if the nodes had not been
there (`Settles`). For a single node this is proved by induction on its number (`settles_node`): the
node is put back below its operands, the operands are worked off first, and since they are made of
smaller nodes only, the text of the node itself is still missing and can be composed from theirs.

**Main result** (`render_eq_spelled_and_composes_once`): the loop ends, no text is missing when it
is needed, each node that the root is made of is composed once and no other, and the text is the one
that recursion on the tree gives. Operands have smaller numbers in a graph, but this is no
restriction: nodes in any order can be numbered in this way as long as they do not go round in a
circle (`exists_graph_of_acyclic`).
-/

namespace NaturalDeduction

/-! ## Recursion on the tree -/

namespace Formula

/-- The text of a formula in the place of an operand: in parentheses unless it is atomic. -/
def enclose (f : Formula) (text : List Char) : List Char :=
  if f.isAtomic then text else '(' :: (text ++ [')'])

/-- The text of a formula, by plain recursion on its tree. -/
def spelled (sp : Spacing) : Formula → List Char
  | atom a => [a.char]
  | predicate P t ts => P.char :: '(' :: (writeTerms t ts ++ [')'])
  | not f => '~' :: f.enclose (f.spelled sp)
  | binary op l r => l.enclose (l.spelled sp) ++ op.chars sp ++ r.enclose (r.spelled sp)
  | quantified q v f => q.symbol :: v.char :: '(' :: (f.spelled sp ++ [')'])

/-- Writing text in front of other text comes to the same. -/
theorem spelled_eq_chars (sp : Spacing) (f : Formula) : f.spelled sp = f.chars sp := by
  induction f with
  | atom a => rfl
  | predicate P t ts => rw [spelled, chars_predicate]
  | not f ih => rw [spelled, chars_not, ih, enclose, operandChars]
  | binary op l r ihl ihr =>
    rw [spelled, chars_binary, ihl, ihr, enclose, enclose, operandChars, operandChars]
  | quantified q v f ih => rw [spelled, chars_quantified, ih]

end Formula

namespace Graph

variable {g : Graph} {sp : Spacing}

/-! ## What a node is made of -/

/-- A node uses another one as an operand. -/
def Uses (nodes : Array Node) (i j : Nat) : Prop :=
  ∃ h : i < nodes.size, j ∈ nodes[i].operands

/-- The nodes that a node is made of, itself among them. -/
def Reaches (g : Graph) : Nat → Nat → Prop :=
  Relation.ReflTransGen (Uses g.nodes)

/-- A node uses nodes with smaller numbers. -/
theorem Uses.lt {i j : Nat} (h : Uses g.nodes i j) : j < i := by
  obtain ⟨hi, hj⟩ := h
  exact g.ordered i hi j hj

/-- A node is made of itself and of nodes with smaller numbers. -/
theorem Reaches.le {i j : Nat} (h : g.Reaches i j) : j ≤ i := by
  induction h with
  | refl => exact Nat.le_refl _
  | tail _ huses ih => exact Nat.le_trans (Nat.le_of_lt huses.lt) ih

/-- A node is atomic if the tree that it stands for is. -/
theorem isAtomic_unfold {i : Nat} (hi : i < g.nodes.size) :
    (g.unfold i hi).isAtomic = g.nodes[i].isAtomic := by
  rw [unfold]
  split <;> (next hn => simp [hn, Formula.isAtomic, Node.isAtomic])

/-! ## The table of texts -/

/-- The nodes whose texts are in the table, the latest first. -/
def keys (done : Rendered) : List Nat :=
  done.map Prod.fst

/-- The number of the latest text comes first. -/
@[simp] theorem keys_cons (i : Nat) (text : List Char) (done : Rendered) :
    keys ((i, text) :: done) = i :: keys done := rfl

/-- The numbers of two tables, one after the other. -/
@[simp] theorem keys_append (new done : Rendered) : keys (new ++ done) = keys new ++ keys done :=
  List.map_append

/-- A text is missing if its number has no entry. -/
theorem lookup_eq_none_iff {done : Rendered} {i : Nat} :
    done.lookup i = none ↔ i ∉ keys done := by
  rw [List.lookup_eq_none_iff, keys, List.mem_map]
  constructor
  · rintro h ⟨entry, hentry, rfl⟩
    simpa using h entry hentry
  · intro h entry hentry
    have hne : i ≠ entry.1 := by
      rintro rfl
      exact h ⟨entry, hentry, rfl⟩
    simpa using hne

/-- What holds of the table at every turn of the loop. -/
structure IsSound (g : Graph) (sp : Spacing) (done : Rendered) : Prop where
  /-- No node has been composed twice. -/
  nodup : (keys done).Nodup
  /-- The texts are those of the trees that the nodes stand for. -/
  spelled : ∀ i text, (i, text) ∈ done → ∃ hi, text = (g.unfold i hi).spelled sp
  /-- With a node its operands are in the table. -/
  closed : ∀ i ∈ keys done, ∀ j, Uses g.nodes i j → j ∈ keys done

/-- The empty table is sound. -/
theorem isSound_nil (g : Graph) (sp : Spacing) : g.IsSound sp [] where
  nodup := List.nodup_nil
  spelled := by
    intro i text h
    cases h
  closed := by
    intro i h
    cases h

namespace IsSound

variable {done : Rendered}

/-- What is found in a sound table is the text of the tree. -/
theorem lookup_eq (h : g.IsSound sp done) {i : Nat} (hi : i ∈ keys done) :
    ∃ hlt, done.lookup i = some ((g.unfold i hlt).spelled sp) := by
  obtain ⟨⟨j, text⟩, hmem, rfl⟩ := List.mem_map.1 hi
  obtain ⟨hlt, rfl⟩ := h.spelled j text hmem
  exact ⟨hlt, lookup_eq_some_of_mem h.nodup hmem⟩

/-- With a node all nodes that it is made of are in the table. -/
theorem mem_of_reaches (h : g.IsSound sp done) {i j : Nat} (hi : i ∈ keys done)
    (hreach : g.Reaches i j) : j ∈ keys done := by
  induction hreach with
  | refl => exact hi
  | tail _ huses ih => exact h.closed _ ih _ huses

/-- The text of a node is composed if its operands are in the table. -/
theorem compose?_eq (h : g.IsSound sp done) {i : Nat} (hi : i < g.nodes.size)
    (hops : ∀ j ∈ g.nodes[i].operands, j ∈ keys done) :
    g.compose? sp done g.nodes[i] = some ((g.unfold i hi).spelled sp) := by
  have hoperand : ∀ j ∈ g.nodes[i].operands, ∃ hj,
      g.operandText? done j = some ((g.unfold j hj).enclose ((g.unfold j hj).spelled sp)) := by
    intro j hmem
    obtain ⟨hj, hlookup⟩ := h.lookup_eq (hops j hmem)
    refine ⟨hj, ?_⟩
    simp only [operandText?, Array.getElem?_eq_getElem hj, hlookup, Formula.enclose,
      isAtomic_unfold hj]
    rfl
  rw [unfold]
  split
  · next a hn => simp only [hn, compose?, Formula.spelled]
  · next P t ts hn => simp only [hn, compose?, Formula.spelled]
  · next j hn =>
    obtain ⟨_, hj⟩ := hoperand j (by simp [hn, Node.operands])
    simp only [hn, compose?, hj, Formula.spelled]
    rfl
  · next op j k hn =>
    obtain ⟨_, hj⟩ := hoperand j (by simp [hn, Node.operands])
    obtain ⟨_, hk⟩ := hoperand k (by simp [hn, Node.operands])
    simp only [hn, compose?, hj, hk, Formula.spelled]
    rfl
  · next q v j hn =>
    obtain ⟨_, hlookup⟩ := h.lookup_eq (hops j (by simp [hn, Node.operands]))
    simp only [hn, compose?, hlookup, Formula.spelled]
    rfl

/-- A node that has just been composed can be entered. -/
theorem cons (h : g.IsSound sp done) {i : Nat} (hi : i < g.nodes.size) (hnew : i ∉ keys done)
    (hops : ∀ j ∈ g.nodes[i].operands, j ∈ keys done) :
    g.IsSound sp ((i, (g.unfold i hi).spelled sp) :: done) where
  nodup := List.nodup_cons.2 ⟨hnew, h.nodup⟩
  spelled := by
    intro j text hmem
    rcases List.mem_cons.1 hmem with heq | hmem
    · cases heq
      exact ⟨hi, rfl⟩
    · exact h.spelled j text hmem
  closed := by
    intro j hj k huses
    refine List.mem_cons_of_mem i ?_
    rcases List.mem_cons.1 hj with rfl | hj
    · obtain ⟨_, hk⟩ := huses
      exact hops k hk
    · exact h.closed j hj k huses

end IsSound

/-! ## One turn of the loop -/

/-- A node whose text is there is passed over. -/
theorem renderStack_skip {p : Pending} {stack : List Pending} {done : Rendered}
    (h : p.index ∈ keys done) :
    g.renderStack sp (p :: stack) done = g.renderStack sp stack done := by
  have hsome : (done.lookup p.index).isSome = true := by
    rw [Option.isSome_iff_ne_none, ne_eq, lookup_eq_none_iff, not_not]
    exact h
  rw [renderStack, if_pos hsome]

/-- A node is composed if its operands have been put on the stack before, or if it has none. -/
theorem renderStack_compose {p : Pending} {stack : List Pending} {done : Rendered}
    {text : List Char} (hnew : p.index ∉ keys done) (hi : p.index < g.nodes.size)
    (hready : (p.expanded || g.nodes[p.index].isAtomic) = true)
    (htext : g.compose? sp done g.nodes[p.index] = some text) :
    g.renderStack sp (p :: stack) done = g.renderStack sp stack ((p.index, text) :: done) := by
  rw [renderStack, lookup_eq_none_iff.2 hnew, dif_pos hi]
  simp only [Option.isSome_none, Bool.false_eq_true, if_false, if_pos hready, htext]

/-- A node that is met for the first time is put back below its operands. -/
theorem renderStack_expand {i : Nat} {stack : List Pending} {done : Rendered}
    (hnew : i ∉ keys done) (hi : i < g.nodes.size) (hop : g.nodes[i].isAtomic = false) :
    g.renderStack sp (⟨i, false⟩ :: stack) done =
      g.renderStack sp
        (g.nodes[i].operands.reverse.map (Pending.mk · false) ++ ⟨i, true⟩ :: stack) done := by
  rw [renderStack, lookup_eq_none_iff.2 hnew, dif_pos hi]
  simp only [Option.isSome_none, Bool.false_eq_true, if_false, hop, Bool.or_self]

/-! ## Working off the top of the stack -/

/-- Nodes at the top of the stack are worked off: whatever lies below them and whatever is in the
table, the loop comes to what lies below with some texts more, among them those of the nodes, and
all of them texts of nodes that these are made of. -/
def Settles (g : Graph) (sp : Spacing) (nodes : List Nat) : Prop :=
  ∀ stack done, g.IsSound sp done → ∃ new,
    g.renderStack sp (nodes.map (Pending.mk · false) ++ stack) done =
      g.renderStack sp stack (new ++ done) ∧
    g.IsSound sp (new ++ done) ∧
    (∀ i ∈ nodes, i ∈ keys (new ++ done)) ∧
    ∀ j ∈ keys new, ∃ i ∈ nodes, g.Reaches i j

/-- No nodes are worked off without doing anything. -/
theorem settles_nil : g.Settles sp [] := by
  intro stack done hdone
  exact ⟨[], rfl, hdone, by simp, by simp [keys]⟩

/-- Nodes are worked off one after the other. -/
theorem Settles.cons {i : Nat} {nodes : List Nat} (hi : g.Settles sp [i])
    (hnodes : g.Settles sp nodes) : g.Settles sp (i :: nodes) := by
  intro stack done hdone
  obtain ⟨new, hrun, hsound, hmem, hreach⟩ :=
    hi (nodes.map (Pending.mk · false) ++ stack) done hdone
  obtain ⟨new', hrun', hsound', hmem', hreach'⟩ := hnodes stack (new ++ done) hsound
  refine ⟨new' ++ new, ?_, ?_, ?_, ?_⟩
  · rw [List.append_assoc, ← hrun']
    exact hrun
  · rw [List.append_assoc]
    exact hsound'
  · rw [List.append_assoc]
    intro j hj
    rcases List.mem_cons.1 hj with rfl | hj
    · rw [keys_append]
      exact List.mem_append_right _ (hmem j List.mem_cons_self)
    · exact hmem' j hj
  · intro j hj
    rw [keys_append] at hj
    rcases List.mem_append.1 hj with hj | hj
    · obtain ⟨k, hk, hkj⟩ := hreach' j hj
      exact ⟨k, List.mem_cons_of_mem i hk, hkj⟩
    · obtain ⟨k, hk, hkj⟩ := hreach j hj
      exact ⟨k, List.mem_cons.2 (.inl (List.mem_singleton.1 hk)), hkj⟩

/-- What is left to do for a node once its operands are worked off. -/
theorem settles_of_operands {i : Nat} (hi : i < g.nodes.size)
    (hops : g.Settles sp g.nodes[i].operands.reverse) : g.Settles sp [i] := by
  intro stack done hdone
  by_cases hold : i ∈ keys done
  · exact ⟨[], renderStack_skip hold, hdone, by simpa using hold, by simp [keys]⟩
  · cases hop : g.nodes[i].isAtomic with
    | true =>
      have hnone : ∀ j ∈ g.nodes[i].operands, j ∈ keys done := by
        intro j hj
        cases hn : g.nodes[i] <;> simp [hn, Node.isAtomic, Node.operands] at hop hj
      refine ⟨[(i, (g.unfold i hi).spelled sp)], ?_, hdone.cons hi hold hnone, by simp, ?_⟩
      · exact renderStack_compose (p := ⟨i, false⟩) hold hi hop (hdone.compose?_eq hi hnone)
      · intro j hj
        exact ⟨i, List.mem_cons_self, by rw [List.mem_singleton.1 hj]; exact .refl⟩
    | false =>
      obtain ⟨new, hrun, hsound, hmem, hreach⟩ := hops (⟨i, true⟩ :: stack) done hdone
      have hmem : ∀ j ∈ g.nodes[i].operands, j ∈ keys (new ++ done) :=
        fun j hj => hmem j (List.mem_reverse.2 hj)
      have huses : ∀ {j k}, k ∈ g.nodes[i].operands.reverse → g.Reaches k j → g.Reaches i j :=
        fun hk hkj => .head ⟨hi, List.mem_reverse.1 hk⟩ hkj
      -- The operands are made of smaller nodes only, so the text of the node is still missing.
      have hnew : i ∉ keys (new ++ done) := by
        rw [keys_append, List.mem_append, not_or]
        refine ⟨?_, hold⟩
        intro hin
        obtain ⟨k, hk, hki⟩ := hreach i hin
        have hlt := g.ordered i hi k (List.mem_reverse.1 hk)
        exact absurd hki.le (Nat.not_le.2 hlt)
      refine ⟨(i, (g.unfold i hi).spelled sp) :: new, ?_, hsound.cons hi hnew hmem, by simp, ?_⟩
      · calc g.renderStack sp (⟨i, false⟩ :: stack) done
          _ = g.renderStack sp (⟨i, true⟩ :: stack) (new ++ done) := by
            rw [renderStack_expand hold hi hop, hrun]
          _ = g.renderStack sp stack ((i, (g.unfold i hi).spelled sp) :: (new ++ done)) :=
            renderStack_compose (p := ⟨i, true⟩) hnew hi rfl (hsound.compose?_eq hi hmem)
      · intro j hj
        refine ⟨i, List.mem_cons_self, ?_⟩
        rcases List.mem_cons.1 hj with rfl | hj
        · exact .refl
        · obtain ⟨k, hk, hkj⟩ := hreach j hj
          exact huses hk hkj

/-- **Every node is worked off.** -/
theorem settles_node (g : Graph) (sp : Spacing) (i : Nat) (hi : i < g.nodes.size) :
    g.Settles sp [i] := by
  induction i using Nat.strongRecOn with
  | _ i ih =>
    refine settles_of_operands hi ?_
    have hops : ∀ nodes : List Nat, (∀ j ∈ nodes, j < i) → g.Settles sp nodes := by
      intro nodes hlt
      induction nodes with
      | nil => exact settles_nil
      | cons j nodes ihn =>
        have hj := hlt j List.mem_cons_self
        refine (ih j hj (Nat.lt_trans hj hi)).cons (ihn ?_)
        exact fun k hk => hlt k (List.mem_cons_of_mem j hk)
    exact hops _ fun j hj => g.ordered i hi j (List.mem_reverse.1 hj)

/-! ## Nodes in any order -/

/-- The same node with its operands under other numbers. -/
def renumber (place : Nat → Nat) : Node → Node
  | .atom a => .atom a
  | .predicate P t ts => .predicate P t ts
  | .not i => .not (place i)
  | .binary op i j => .binary op (place i) (place j)
  | .quantified q v i => .quantified q v (place i)

/-- The operands of a node get new numbers with it. -/
theorem operands_renumber (place : Nat → Nat) (n : Node) :
    (renumber place n).operands = n.operands.map place := by
  cases n <;> rfl

/-- The nodes of a graph are the given ones, each at its place. -/
structure Arranges (g : Graph) (nodes : Array Node) (place : Nat → Nat) : Prop where
  /-- No node is added. -/
  size_eq : g.nodes.size = nodes.size
  /-- Different nodes are at different places. -/
  injective : ∀ i < nodes.size, ∀ j < nodes.size, place i = place j → i = j
  /-- Each node is there, and refers to the places of its operands. -/
  getElem?_eq : ∀ i (h : i < nodes.size), g.nodes[place i]? = some (renumber place nodes[i])

/-- Finitely many things can be numbered along a relation that does not go round in a circle. -/
theorem exists_numbering {α : Type} [Fintype α] {n : Nat} (hcard : Fintype.card α = n)
    {r : α → α → Prop} (h : ∀ a, ¬ Relation.TransGen r a a) :
    ∃ e : α ≃ Fin n, ∀ a b, r a b → e a < e b := by
  let order : PartialOrder α :=
    { le := Relation.ReflTransGen r
      le_refl := fun a => .refl
      le_trans := fun a b c => Relation.ReflTransGen.trans
      le_antisymm := by
        intro a b hab hba
        rcases Relation.reflTransGen_iff_eq_or_transGen.1 hab with heq | hab
        · exact heq.symm
        · exact absurd (hab.trans_left hba) (h a) }
  let finite : Fintype (LinearExtension α) := Fintype.ofEquiv α (Equiv.refl α)
  have hcard' : Fintype.card (LinearExtension α) = n := by
    rw [← hcard]
    exact Fintype.card_congr (Equiv.refl α)
  let sorted := (monoEquivOfFin (LinearExtension α) hcard').symm
  refine ⟨sorted.toEquiv, ?_⟩
  intro a b hab
  have hle : toLinearExtension a ≤ toLinearExtension b :=
    toLinearExtension.monotone (Relation.ReflTransGen.single hab)
  refine lt_of_le_of_ne (sorted.monotone hle) ?_
  intro heq
  have hab' : a = b := sorted.injective heq
  subst hab'
  exact h a (.single hab)

/-- **Order is no restriction**: nodes that do not go round in a circle are those of a graph. -/
theorem exists_graph_of_acyclic {nodes : Array Node}
    (hclosed : ∀ i j, Uses nodes i j → j < nodes.size)
    (hacyclic : ∀ i, ¬ Relation.TransGen (Uses nodes) i i) :
    ∃ (g : Graph) (place : Nat → Nat), g.Arranges nodes place := by
  let before : Fin nodes.size → Fin nodes.size → Prop := fun j i => Uses nodes i j
  have hbefore : ∀ i, ¬ Relation.TransGen before i i := by
    intro i hi
    have hback : Relation.TransGen (Function.swap (Uses nodes)) i.val i.val :=
      Relation.TransGen.lift Fin.val (fun _ _ h => h) _ _ hi
    exact hacyclic i (Relation.transGen_swap.1 hback)
  obtain ⟨e, he⟩ := exists_numbering (Fintype.card_fin nodes.size) hbefore
  let place : Nat → Nat := fun i => if h : i < nodes.size then e ⟨i, h⟩ else i
  have hplace : ∀ i (h : i < nodes.size), place i = e ⟨i, h⟩ := fun i h => dif_pos h
  refine ⟨⟨Array.ofFn fun k => renumber place nodes[e.symm k], ?_⟩, place, ?_, ?_, ?_⟩
  · -- An operand of the node at place `k` is an operand of a node before it was given its place.
    intro k hk j hj
    rw [Array.getElem_ofFn, operands_renumber] at hj
    obtain ⟨i, hi, rfl⟩ := List.mem_map.1 hj
    have hk' : k < nodes.size := by simpa using hk
    have huses : Uses nodes (e.symm ⟨k, hk'⟩) i := ⟨Fin.isLt _, hi⟩
    have hlt := hclosed _ _ huses
    have hplaced := he ⟨i, hlt⟩ (e.symm ⟨k, hk'⟩) huses
    rw [Equiv.apply_symm_apply] at hplaced
    rw [hplace i hlt]
    exact hplaced
  · simp
  · intro i hi j hj heq
    rw [hplace i hi, hplace j hj] at heq
    exact congrArg Fin.val (e.injective (Fin.ext heq))
  · intro i hi
    rw [hplace i hi, Array.getElem?_ofFn, dif_pos (Fin.isLt _)]
    simp

/-! ## The whole -/

/-- **Rendering with a stack agrees with recursion.** For every root of every graph, with or without
spaces around connectives: the loop ends, and no text was missing when it was needed; the nodes that
have been composed are those that the root is made of, each of them once; and the text of the root,
as well as that of each node, is the text of the tree. Any nodes that do not go round in a circle
are the nodes of a graph. -/
theorem render_eq_spelled_and_composes_once :
    (∀ (g : Graph) (sp : Spacing) (root : Fin g.nodes.size), ∃ done,
      g.renderStack sp [⟨root, false⟩] [] = some done ∧
      (keys done).Nodup ∧
      (∀ i, i ∈ keys done ↔ g.Reaches root i) ∧
      (∀ i text, (i, text) ∈ done → ∃ hi, text = (g.unfold i hi).spelled sp) ∧
      g.render sp root = some ((g.unfold root root.isLt).spelled sp) ∧
      (g.unfold root root.isLt).spelled sp = (g.unfold root root.isLt).chars sp) ∧
    ∀ nodes : Array Node, (∀ i j, Uses nodes i j → j < nodes.size) →
      (∀ i, ¬ Relation.TransGen (Uses nodes) i i) →
      ∃ (g : Graph) (place : Nat → Nat), g.Arranges nodes place := by
  refine ⟨?_, fun nodes => exists_graph_of_acyclic⟩
  intro g sp root
  obtain ⟨done, hrun, hsound, hmem, hreach⟩ :=
    g.settles_node sp root root.isLt [] [] (g.isSound_nil sp)
  rw [List.append_nil] at hsound hmem
  have hroot := hmem root List.mem_cons_self
  have hdone : g.renderStack sp [⟨root, false⟩] [] = some done := by
    refine hrun.trans ?_
    rw [renderStack, List.append_nil]
  refine ⟨done, hdone, hsound.nodup, ?_, hsound.spelled, ?_, Formula.spelled_eq_chars sp _⟩
  · intro i
    refine ⟨fun hi => ?_, hsound.mem_of_reaches hroot⟩
    obtain ⟨k, hk, hki⟩ := hreach i hi
    rwa [List.mem_singleton.1 hk] at hki
  · obtain ⟨_, hlookup⟩ := hsound.lookup_eq hroot
    rw [render, hdone]
    exact hlookup

/-- The formula `~p & ~p` with one node for both sides: that node is composed once, and the text is
that of the tree. The same nodes, each before its operands, are those of a graph as well. -/
theorem render_of_shared_negation :
    let p : Letter := ⟨'p', rfl⟩
    let g : Graph := ((empty.push (.atom p) (by decide)).push (.not 0) (by decide)).push
      (.binary .and 1 1) (by decide)
    let nodes : Array Node := #[.binary .and 1 1, .not 2, .atom p]
    (∃ done, g.renderStack .tight [⟨2, false⟩] [] = some done ∧ (keys done).Nodup ∧
      1 ∈ keys done ∧ g.render .tight 2 = some "(~p)&(~p)".toList) ∧
    (∀ i j, Uses nodes i j → j < nodes.size) ∧ (∀ i, ¬ Relation.TransGen (Uses nodes) i i) ∧
      ∃ (g : Graph) (place : Nat → Nat), g.Arranges nodes place := by
  intro p g nodes
  have huses : ∀ {i j}, Uses nodes i j → i < j ∧ j < 3 := by
    rintro i j ⟨hi, hj⟩
    match i, hi, hj with
    | 0, _, hj =>
      have hone : j = 1 := by simpa [nodes, Node.operands] using hj
      omega
    | 1, _, hj =>
      have htwo : j = 2 := by simpa [nodes, Node.operands] using hj
      omega
    | 2, _, hj => simp [nodes, Node.operands] at hj
  have hclosed : ∀ i j, Uses nodes i j → j < nodes.size := fun _ _ h => (huses h).2
  have hacyclic : ∀ i, ¬ Relation.TransGen (Uses nodes) i i := by
    intro i hi
    have hlt : ∀ {j}, Relation.TransGen (Uses nodes) i j → i < j := by
      intro j hj
      induction hj with
      | single h => exact (huses h).1
      | tail _ h ih => exact Nat.lt_trans ih (huses h).1
    exact Nat.lt_irrefl i (hlt hi)
  obtain ⟨hrender, hgraph⟩ := render_eq_spelled_and_composes_once
  obtain ⟨done, hdone, hnodup, hkeys, -, htext, -⟩ := hrender g .tight ⟨2, by decide⟩
  have hshared : g.Reaches 2 1 := .single ⟨by decide, List.mem_cons_self⟩
  have hspelled : (g.unfold 2 (by decide)).spelled .tight = "(~p)&(~p)".toList := by
    have htree : g.unfold 2 (by decide) = .binary .and (.not (.atom p)) (.not (.atom p)) := by
      simp [unfold, g, push, empty]
    rw [htree]
    decide
  exact ⟨⟨done, hdone, hnodup, (hkeys 1).2 hshared, htext.trans (congrArg some hspelled)⟩, hclosed,
    hacyclic, hgraph nodes hclosed hacyclic⟩

end Graph

end NaturalDeduction
