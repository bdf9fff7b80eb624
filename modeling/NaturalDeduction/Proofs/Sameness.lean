import NaturalDeduction.Proofs.RoundTrip

/-!
# Same formulas and their parts

Two formulas are the same if their canonical forms are, and then their main operators agree and
their operands are the same one by one (`Formula.same_binary_iff` and its neighbours). So a formula
that is the same as one with a given operator has that operator itself
(`Formula.exists_of_binary_same`).

The second half is about lengths. As an operand, a formula brings its parentheses with it
(`Formula.operandLength`), and with this the canonical form of a negation or of a connective is as
long as its sign and its operands are. Same formulas have the same length, and a negation of a
formula is at most one character longer than that formula is as an operand
(`Formula.canonicalLength_le_of_isNegation`).
-/

namespace NaturalDeduction.Formula

/-! ## Parts -/

/-- What is the same as another formula has that one the same as it. -/
theorem same_symm {f g : Formula} (h : f.same g = true) : g.same f = true := by
  rwa [same_comm]

/-- Formulas that are the same as a third one are the same. -/
theorem same_of_same {f g h : Formula} (hg : f.same g = true) (hh : f.same h = true) :
    g.same h = true :=
  same_trans (same_symm hg) hh

/-- Negations are the same if their operands are. -/
theorem same_not_iff {f g : Formula} : (not f).same (not g) = true ↔ f.same g = true := by
  simp only [same_iff_cutTerms_eq, cutTerms, not.injEq]

/-- Joined formulas are the same if connective and sides are. -/
theorem same_binary_iff {op op' : Connective} {l r l' r' : Formula} :
    (binary op l r).same (binary op' l' r') = true ↔
      op = op' ∧ l.same l' = true ∧ r.same r' = true := by
  simp only [same_iff_cutTerms_eq, cutTerms, binary.injEq]

/-- Quantified formulas are the same if quantifier, variable and scope are. -/
theorem same_quantified_iff {q q' : Quantifier} {v v' : Letter} {f g : Formula} :
    (quantified q v f).same (quantified q' v' g) = true ↔ q = q' ∧ v = v' ∧ f.same g = true := by
  simp only [same_iff_cutTerms_eq, cutTerms, quantified.injEq]

/-- What is the same as a negation is a negation. -/
theorem exists_of_not_same {f g : Formula} (h : (not f).same g = true) :
    ∃ g', g = not g' ∧ f.same g' = true := by
  cases g with
  | not g => exact ⟨g, rfl, same_not_iff.1 h⟩
  | _ => simp [same_iff_cutTerms_eq, cutTerms] at h

/-- What is the same as a formula with a connective has that connective. -/
theorem exists_of_binary_same {op : Connective} {l r g : Formula}
    (h : (binary op l r).same g = true) :
    ∃ l' r', g = binary op l' r' ∧ l.same l' = true ∧ r.same r' = true := by
  cases g with
  | binary op' l' r' =>
    obtain ⟨rfl, hl, hr⟩ := same_binary_iff.1 h
    exact ⟨l', r', rfl, hl, hr⟩
  | _ => simp [same_iff_cutTerms_eq, cutTerms] at h

/-- What is the same as a quantified formula has the same quantifier and variable. -/
theorem exists_of_quantified_same {q : Quantifier} {v : Letter} {f g : Formula}
    (h : (quantified q v f).same g = true) :
    ∃ g', g = quantified q v g' ∧ f.same g' = true := by
  cases g with
  | quantified q' v' g =>
    obtain ⟨rfl, rfl, hf⟩ := same_quantified_iff.1 h
    exact ⟨g, rfl, hf⟩
  | _ => simp [same_iff_cutTerms_eq, cutTerms] at h

/-- Being the negation of a formula depends only on what the formulas are the same as. -/
theorem isNegationOf_of_same {f f' g g' : Formula} (hf : f.same f' = true) (hg : g.same g' = true)
    (h : f.isNegationOf g = true) : f'.isNegationOf g' = true := by
  cases f with
  | not f =>
    obtain ⟨f₁, rfl, hf₁⟩ := exists_of_not_same hf
    exact same_of_same hf₁ (same_trans h hg)
  | _ => cases h

/-- Whether two formulas negate each other can be asked of any that are the same. -/
theorem isNegation_of_same {f f' g g' : Formula} (hf : f.same f' = true) (hg : g.same g' = true)
    (h : f.isNegation g = true) : f'.isNegation g' = true := by
  unfold isNegation at h ⊢
  rw [Bool.or_eq_true] at h ⊢
  exact h.imp (isNegationOf_of_same hg hf) (isNegationOf_of_same hf hg)

/-- What is the same as an atomic formula is atomic. -/
theorem isAtomic_of_same {f g : Formula} (h : f.same g = true) : f.isAtomic = g.isAtomic := by
  rw [← isAtomic_cutTerms f, same_iff_cutTerms_eq.1 h, isAtomic_cutTerms]

/-! ## Lengths -/

/-- The number of characters of a formula as an operand, with its parentheses if it has any. -/
def operandLength (f : Formula) : Nat :=
  if f.isAtomic then f.canonicalLength else f.canonicalLength + 2

/-- A negation is one character longer than its operand. -/
theorem canonicalLength_not (f : Formula) : (not f).canonicalLength = 1 + f.operandLength := rfl

/-- Joined formulas are as long as their sides and the connective. -/
theorem canonicalLength_binary (op : Connective) (l r : Formula) :
    (binary op l r).canonicalLength = l.operandLength + op.symbol.length + r.operandLength := rfl

/-- A negation as an operand is in parentheses. -/
theorem operandLength_not (f : Formula) : (not f).operandLength = 1 + f.operandLength + 2 := rfl

/-- Joined formulas as operands are in parentheses. -/
theorem operandLength_binary (op : Connective) (l r : Formula) :
    (binary op l r).operandLength = l.operandLength + op.symbol.length + r.operandLength + 2 := rfl

/-- Parentheses make nothing shorter. -/
theorem canonicalLength_le_operandLength (f : Formula) : f.canonicalLength ≤ f.operandLength := by
  unfold operandLength
  split <;> omega

/-- No operand is written as nothing. -/
theorem operandLength_pos (f : Formula) : 0 < f.operandLength := by
  induction f with
  | atom a => exact Nat.one_pos
  | predicate P t ts => simp [operandLength, isAtomic, canonicalLength]
  | not f ih => rw [operandLength_not]; omega
  | binary op l r ihl ihr => rw [operandLength_binary]; omega
  | quantified q v f ih => simp [operandLength, isAtomic]

/-- Formulas that are the same are equally long. -/
theorem canonicalLength_of_same {f g : Formula} (h : f.same g = true) :
    f.canonicalLength = g.canonicalLength := by
  rw [← length_chars_tight, same_iff.1 h, length_chars_tight]

/-- Formulas that are the same are equally long as operands. -/
theorem operandLength_of_same {f g : Formula} (h : f.same g = true) :
    f.operandLength = g.operandLength := by
  unfold operandLength
  rw [isAtomic_of_same h, canonicalLength_of_same h]

/-- Of two formulas that negate each other, one may be longer, but by one sign and one pair of
parentheses only. -/
theorem canonicalLength_le_of_isNegation {f g : Formula} (h : f.isNegation g = true) :
    f.canonicalLength ≤ 1 + g.operandLength := by
  unfold isNegation at h
  rw [Bool.or_eq_true] at h
  rcases h with h | h
  · cases g with
    | not g =>
      have hlength := canonicalLength_of_same (show g.same f = true from h)
      have hle := canonicalLength_le_operandLength g
      rw [operandLength_not]
      omega
    | _ => cases h
  · cases f with
    | not f =>
      have hlength := operandLength_of_same (show f.same g = true from h)
      rw [canonicalLength_not]
      omega
    | _ => cases h

end NaturalDeduction.Formula
