import NaturalDeduction.Proofs.Sameness
import NaturalDeduction.Rule.Quantifier

/-!
# Negation and blocks of quantifiers

A block is a sequence of quantifiers with their variables. Negation moves through a block by
exchanging all of its quantifiers, and this is all that the rule of quantifier negation allows: of
the two formulas one is the negation of a formula under a block, the other one a formula under the
dual block, and of the two formulas under the blocks one is the negation of the other
(`Rule.MovedThroughBlock`, `Rule.negatesQuantifier_iff_moved`).

The block need not be the longest one, since the formulas under it may begin with quantifiers
themselves. There is another way to look for it: to split off the longest blocks once and then to
try their beginnings, from one quantifier upwards, until they differ (`Formula.agreesAlong`). It
finds the same, for two reasons. Beginnings that are dual at some length are dual at every smaller
one (`Formula.DualUpTo.mono`), so a search that stops at the first difference has missed nothing;
and a formula under a block has a longest block that begins with it (`Formula.block_quantify`), so
no block is longer than those that are tried.
-/

namespace NaturalDeduction

/-- Quantifiers with their variables, the outermost first. -/
abbrev Block : Type := List (Quantifier × Letter)

/-- The block with all of its quantifiers exchanged. -/
def Block.dual (block : Block) : Block :=
  block.map fun entry => (entry.1.dual, entry.2)

namespace Formula

/-- A formula under a block. -/
def quantify (block : Block) (body : Formula) : Formula :=
  block.foldr (fun entry f => .quantified entry.1 entry.2 f) body

/-- The longest block that a formula begins with. -/
def block : Formula → Block
  | quantified q v f => (q, v) :: f.block
  | _ => []

/-- What stands under the longest block. -/
def matrix : Formula → Formula
  | quantified _ _ f => f.matrix
  | f => f

/-! ## Formulas under blocks -/

/-- The first quantifier of a block stands outermost. -/
@[simp] theorem quantify_cons (entry : Quantifier × Letter) (block : Block) (body : Formula) :
    quantify (entry :: block) body = quantified entry.1 entry.2 (quantify block body) := rfl

/-- Quantifiers of two blocks stand in front of a body one block after the other. -/
theorem quantify_append (first second : Block) (body : Formula) :
    quantify (first ++ second) body = quantify first (quantify second body) :=
  List.foldr_append

/-- Nothing is lost when the longest block is split off. -/
theorem quantify_block (f : Formula) : quantify f.block f.matrix = f := by
  induction f with
  | quantified q v f ih => rw [block, matrix, quantify_cons, ih]
  | _ => rfl

/-- The longest block of a formula under a block goes on in the formula. -/
theorem block_quantify (first : Block) (body : Formula) :
    (quantify first body).block = first ++ body.block := by
  induction first with
  | nil => rfl
  | cons entry first ih => rw [quantify_cons, block, ih, List.cons_append]

/-- Quantifiers in front do not change what is left without them. -/
theorem matrix_quantify (first : Block) (body : Formula) :
    (quantify first body).matrix = body.matrix := by
  induction first with
  | nil => rfl
  | cons entry first ih => rw [quantify_cons, matrix, ih]

/-- What is the same as a formula under a block stands under that block itself. -/
theorem exists_of_quantify_same {first : Block} {body g : Formula}
    (h : (quantify first body).same g = true) :
    ∃ body', g = quantify first body' ∧ body.same body' = true := by
  induction first generalizing g with
  | nil => exact ⟨g, rfl, h⟩
  | cons entry first ih =>
    obtain ⟨g', rfl, hg'⟩ := exists_of_quantified_same h
    obtain ⟨body', rfl, hbody⟩ := ih hg'
    exact ⟨body', rfl, hbody⟩

/-! ## Negations -/

/-- The negation of a formula is what is the same as it with a negation in front. -/
theorem isNegationOf_iff {f g : Formula} : f.isNegationOf g = true ↔ f.same (not g) = true := by
  constructor
  · intro h
    unfold isNegationOf at h
    split at h
    · exact same_not_iff.2 h
    · cases h
  · intro h
    obtain ⟨f', rfl, hf'⟩ := exists_of_not_same (same_symm h)
    exact same_symm hf'

/-- To be a negation of each other is to be the same up to one sign of negation. -/
theorem isNegation_iff_same {f g : Formula} :
    f.isNegation g = true ↔ f.same (not g) = true ∨ g.same (not f) = true := by
  rw [isNegation, Bool.or_eq_true, isNegationOf_iff, isNegationOf_iff, or_comm]

/-! ## The longest blocks -/

/-- Whether the longest blocks of two formulas are dual in their first `k` entries. -/
def DualUpTo (f g : Formula) (k : Nat) : Prop :=
  Block.dual (f.block.take k) = g.block.take k

instance (f g : Formula) (k : Nat) : Decidable (f.DualUpTo g k) :=
  inferInstanceAs (Decidable (_ = _))

/-- What stands under the first `k` quantifiers. -/
def under (k : Nat) (f : Formula) : Formula :=
  quantify (f.block.drop k) f.matrix

/-- The search through beginnings of the longest blocks. It stops where the blocks are not dual, and
where the formulas under the beginnings negate each other. -/
def agreesAlong (f g : Formula) : List Nat → Bool
  | [] => false
  | k :: ks =>
    if f.DualUpTo g k then (f.under k).isNegation (g.under k) || agreesAlong f g ks else false

/-- Blocks that are dual at some length are dual at every smaller one. -/
theorem DualUpTo.mono {f g : Formula} {j k : Nat} (h : f.DualUpTo g k) (hjk : j ≤ k) :
    f.DualUpTo g j := by
  have htake := congrArg (List.take j) h
  rw [Block.dual, ← List.map_take, List.take_take, List.take_take, Nat.min_eq_left hjk] at htake
  exact htake

/-- Quantifiers that were taken off a formula can be put back. -/
theorem quantify_take_under (f : Formula) (k : Nat) :
    quantify (f.block.take k) (f.under k) = f := by
  rw [under, ← quantify_append, List.take_append_drop, quantify_block]

/-- Quantifiers that were put in front of a body can be taken off. -/
theorem under_quantify {first : Block} {k : Nat} (hk : first.length = k) (body : Formula) :
    (quantify first body).under k = body := by
  rw [under, block_quantify, matrix_quantify, List.drop_left' hk, quantify_block]

/-- A search that succeeds has found a number of quantifiers for which the two formulas are dual. -/
theorem exists_of_agreesAlong {f g : Formula} {ks : List Nat} (h : f.agreesAlong g ks = true) :
    ∃ k ∈ ks, f.DualUpTo g k ∧ (f.under k).isNegation (g.under k) = true := by
  induction ks with
  | nil => cases h
  | cons k ks ih =>
    rw [agreesAlong] at h
    split at h
    · next hdual =>
      rw [Bool.or_eq_true] at h
      rcases h with hnegation | hrest
      · exact ⟨k, List.mem_cons_self, hdual, hnegation⟩
      · obtain ⟨k', hk', hfound⟩ := ih hrest
        exact ⟨k', List.mem_cons_of_mem k hk', hfound⟩
    · cases h

/-- The search misses nothing if it tries smaller lengths first. -/
theorem agreesAlong_of_mem {f g : Formula} {ks : List Nat} (hks : ks.Pairwise (· < ·)) {k : Nat}
    (hk : k ∈ ks) (hdual : f.DualUpTo g k) (hnegation : (f.under k).isNegation (g.under k) = true) :
    f.agreesAlong g ks = true := by
  induction ks with
  | nil => cases hk
  | cons j ks ih =>
    rw [List.pairwise_cons] at hks
    rw [agreesAlong]
    rcases List.mem_cons.1 hk with rfl | hrest
    · rw [if_pos hdual, hnegation, Bool.true_or]
    · -- The blocks do not differ yet, so the search goes on.
      rw [if_pos (hdual.mono (Nat.le_of_lt (hks.1 k hrest))), ih hks.2 hrest, Bool.or_true]

end Formula

namespace Rule

open Formula

/-! ## The rule -/

/-- The first formula is the negation of a formula under a block, the second one is under the dual
block, and of the formulas under the blocks one is the negation of the other. -/
def MovedThroughBlock (n o : Formula) : Prop :=
  ∃ (block : Block) (b c : Formula), block ≠ [] ∧
    (b.same (.not c) = true ∨ c.same (.not b) = true) ∧
    n.same (.not (quantify block b)) = true ∧ o.same (quantify block.dual c) = true

/-- The recursion goes down exactly through a block and its dual. -/
theorem dualBlocks_iff {f g : Formula} :
    dualBlocks f g = true ↔ ∃ (block : Block) (b c : Formula), block ≠ [] ∧
      f = quantify block b ∧ g = quantify block.dual c ∧ b.isNegation c = true := by
  constructor
  · intro h
    induction f generalizing g with
    | quantified q v f ih =>
      unfold dualBlocks at h
      split at h
      · next q v f q' v' g heq =>
        cases heq
        simp only [Bool.and_eq_true, Bool.or_eq_true, decide_eq_true_eq] at h
        obtain ⟨⟨rfl, rfl⟩, hnegation | hrest⟩ := h
        · exact ⟨[(q, v)], f, g, List.cons_ne_nil _ _, rfl, rfl, hnegation⟩
        · obtain ⟨block, b, c, -, rfl, rfl, hnegation⟩ := ih hrest
          exact ⟨(q, v) :: block, b, c, List.cons_ne_nil _ _, rfl, rfl, hnegation⟩
      · cases h
    | _ => cases h
  · rintro ⟨block, b, c, hblock, rfl, rfl, hnegation⟩
    induction block with
    | nil => exact absurd rfl hblock
    | cons entry block ih =>
      show dualBlocks (.quantified entry.1 entry.2 (quantify block b))
        (.quantified entry.1.dual entry.2 (quantify (Block.dual block) c)) = true
      rw [dualBlocks, decide_eq_true rfl, decide_eq_true rfl, Bool.and_self, Bool.true_and]
      by_cases hlast : block = []
      · subst hlast
        exact Bool.or_eq_true_iff.2 (.inl hnegation)
      · rw [ih hlast, Bool.or_true]

/-- The recursion and the search through the longest blocks agree. -/
theorem dualBlocks_eq_agreesAlong (f g : Formula) :
    dualBlocks f g =
      f.agreesAlong g (List.range' 1 (min f.block.length g.block.length)) := by
  rw [Bool.eq_iff_iff, dualBlocks_iff]
  constructor
  · rintro ⟨block, b, c, hblock, rfl, rfl, hnegation⟩
    have hdual : (Block.dual block).length = block.length := List.length_map _
    refine agreesAlong_of_mem List.pairwise_lt_range' (k := block.length) ?_ ?_ ?_
    · have hpos := List.length_pos_iff.2 hblock
      rw [List.mem_range'_1, block_quantify, block_quantify, List.length_append, List.length_append,
        hdual]
      omega
    · rw [DualUpTo, block_quantify, block_quantify, List.take_left, List.take_left' hdual]
    · rw [under_quantify rfl, under_quantify hdual]
      exact hnegation
  · intro h
    obtain ⟨k, hk, hdual, hnegation⟩ := exists_of_agreesAlong h
    rw [List.mem_range'_1] at hk
    refine ⟨f.block.take k, f.under k, g.under k, ?_, ?_, ?_, hnegation⟩
    · intro hnil
      have hlength := congrArg List.length hnil
      rw [List.length_take, List.length_nil] at hlength
      omega
    · exact (quantify_take_under f k).symm
    · rw [show Block.dual (f.block.take k) = g.block.take k from hdual]
      exact (quantify_take_under g k).symm

/-- The check finds a negation that has moved through a block of quantifiers exactly if there is
such a block. -/
theorem movesThroughBlock_iff {n o : Formula} :
    movesThroughBlock n o = true ↔ MovedThroughBlock n o := by
  constructor
  · intro h
    unfold movesThroughBlock at h
    split at h
    · obtain ⟨block, b, c, hblock, rfl, rfl, hnegation⟩ := dualBlocks_iff.1 h
      exact ⟨block, b, c, hblock, isNegation_iff_same.1 hnegation, same_refl _, same_refl _⟩
    · cases h
  · rintro ⟨block, b, c, hblock, hnegation, hn, ho⟩
    obtain ⟨f, rfl, hf⟩ := exists_of_not_same (same_symm hn)
    obtain ⟨b', rfl, hb⟩ := exists_of_quantify_same hf
    obtain ⟨c', rfl, hc⟩ := exists_of_quantify_same (same_symm ho)
    exact dualBlocks_iff.2 ⟨block, b', c', hblock, rfl, rfl,
      isNegation_of_same hb hc (isNegation_iff_same.2 hnegation)⟩

/-- The form of the target decides which of the two orders is tried, and the other one would fail.
-/
theorem negatesQuantifier_iff_movesThroughBlock {t s : Formula} :
    negatesQuantifier t s = true ↔
      movesThroughBlock t s = true ∨ movesThroughBlock s t = true := by
  unfold negatesQuantifier
  split
  · -- A negation is not quantified, so it cannot stand on the other side.
    refine ⟨.inl, fun h => h.resolve_right ?_⟩
    intro hswapped
    obtain ⟨block, b, c, hblock, -, -, ho⟩ := movesThroughBlock_iff.1 hswapped
    obtain ⟨g, hg, -⟩ := exists_of_not_same ho
    obtain ⟨entry, rest, rfl⟩ := List.exists_cons_of_ne_nil hblock
    cases hg
  · next hform =>
    refine ⟨.inr, fun h => h.resolve_left ?_⟩
    intro hmoves
    obtain ⟨block, b, c, hblock, -, hn, -⟩ := movesThroughBlock_iff.1 hmoves
    obtain ⟨f, rfl, hf⟩ := exists_of_not_same (same_symm hn)
    obtain ⟨b', rfl, -⟩ := exists_of_quantify_same hf
    obtain ⟨entry, rest, rfl⟩ := List.exists_cons_of_ne_nil hblock
    exact hform _ _ _ rfl

/-- **Quantifier negation accepts exactly its schema**: in one of the two orders, negation has moved
through a block. And to look for the block by splitting off the longest blocks, and to stop where
these are not dual, finds it whenever there is one. -/
theorem negatesQuantifier_iff_moved (t s : Formula) :
    (negatesQuantifier t s = true ↔ MovedThroughBlock t s ∨ MovedThroughBlock s t) ∧
      ∀ f g : Formula, (movesThroughBlock (.not f) g =
        f.agreesAlong g (List.range' 1 (min f.block.length g.block.length))) := by
  refine ⟨?_, dualBlocks_eq_agreesAlong⟩
  rw [negatesQuantifier_iff_movesThroughBlock, movesThroughBlock_iff, movesThroughBlock_iff]

/-- The formula under a block of two begins with a third quantifier, which is not exchanged. -/
example :
    let x : Letter := ⟨'x', rfl⟩
    let y : Letter := ⟨'y', rfl⟩
    let body : Formula := .quantified .existential x (.predicate ⟨'F', rfl⟩ (.ofLetter x) [])
    negatesQuantifier (.quantified .universal x (.quantified .existential y (.not body)))
      (.not (.quantified .existential x (.quantified .universal y body))) = true := by
  decide

end Rule

end NaturalDeduction
