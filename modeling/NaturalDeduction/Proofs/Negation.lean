import NaturalDeduction.Proofs.Abstraction
import NaturalDeduction.Proofs.Sameness

/-!
# Negating twice

The negation of a formula is the formula with a negation in front, unless one is there already,
which is then taken away. Whichever of the two it is (`Formula.negate_cases`), the negation is a
negation of the formula, and where the atoms have truth values it has the opposite truth value
(`Formula.evaluate_negate`).

Negating twice gives the formula back if at most one negation leads it. From a formula with two or
more it takes two away, and what is left is shorter, hence another formula
(`Formula.same_negate_negate_iff`). So negation is not an involution
(`Formula.negate_negate_doubled`), and **the main result** (`Formula.negate_negate_and_opposite`)
says when it acts as one.
-/

namespace NaturalDeduction

/-- What decides a negation decides its argument, since every atom of the argument occurs in the
negation. -/
theorem Assignment.Decides.of_not {a : Assignment} {f : Formula} (h : a.Decides (.not f)) :
    a.Decides f := by
  intro g hg
  obtain ⟨hsub, hatom⟩ := Formula.mem_tableAtoms.1 hg
  have hocc : g ∈ (Formula.not f).occurrences true :=
    List.mem_cons_of_mem _ (Formula.mem_occurrences_of_mem_subformulas hsub)
  obtain ⟨g', hg', hcanonical⟩ := Formula.exists_mem_tableAtoms hocc hatom
  rw [← hcanonical]
  exact h g' hg'

namespace Formula

/-! ## Leading negations -/

/-- The number of negations that lead a formula. -/
def leadingNegations : Formula → Nat
  | not f => f.leadingNegations + 1
  | _ => 0

/-- Of a formula and its negation one is the other with a negation in front. -/
theorem negate_cases (f : Formula) : f = not f.negate ∨ f.negate = not f := by
  cases f with
  | not f => exact .inl rfl
  | _ => exact .inr rfl

/-- A formula that begins with no negation is negated by putting one in front. -/
theorem negate_eq_not {f : Formula} (h : f.leadingNegations = 0) : f.negate = not f := by
  rcases negate_cases f with hf | hf
  · rw [hf] at h
    exact absurd h (Nat.succ_ne_zero _)
  · exact hf

/-- Up to one negation comes back. -/
theorem negate_negate {f : Formula} (h : f.leadingNegations ≤ 1) : f.negate.negate = f := by
  rcases negate_cases f with hf | hf
  · have hzero : f.negate.leadingNegations = 0 := by
      rw [hf] at h
      exact Nat.le_zero.1 (Nat.le_of_succ_le_succ h)
    rw [negate_eq_not hzero]
    exact hf.symm
  · rw [hf]
    rfl

/-- A formula with more than one leading negation is the negation of a negation. -/
theorem exists_not_not {f : Formula} (h : 1 < f.leadingNegations) : ∃ g, f = not (not g) := by
  cases f with
  | not f =>
    cases f with
    | not g => exact ⟨g, rfl⟩
    | _ => exact absurd h (Nat.lt_irrefl 1)
  | _ => exact absurd h (Nat.not_lt_zero 1)

/-- A formula is never the same as one with two more negations, whose canonical form is longer. -/
theorem not_same_not_not (f : Formula) : ¬ f.same (not (not f)) = true := by
  intro h
  have hlength := canonicalLength_of_same h
  have hle := canonicalLength_le_operandLength f
  rw [canonicalLength_not, operandLength_not] at hlength
  omega

/-- Negating twice leads back exactly if there is at most one leading negation. -/
theorem same_negate_negate_iff (f : Formula) :
    f.negate.negate.same f = true ↔ f.leadingNegations ≤ 1 := by
  constructor
  · intro h
    by_contra hmore
    obtain ⟨g, rfl⟩ := exists_not_not (Nat.lt_of_not_le hmore)
    exact not_same_not_not g h
  · intro h
    rw [negate_negate h]
    exact same_refl f

/-! ## Truth -/

/-- Where the atoms have truth values, the negation has the opposite of the formula's. -/
theorem evaluate_negate {a : Assignment} {f : Formula} (h : a.Decides f) :
    ∃ b, f.evaluate a = .ofBool b ∧ f.negate.evaluate a = .ofBool (!b) := by
  rcases negate_cases f with hf | hf
  · rw [hf] at h
    have hvalue := evaluate_of_decides h.of_not
    generalize f.negate.truth (fun s => (a s).isTrue) = b at hvalue
    refine ⟨!b, ?_, ?_⟩
    · rw [hf, evaluate, hvalue]
      rfl
    · rw [hvalue, Bool.not_not]
  · have hvalue := evaluate_of_decides h
    refine ⟨_, hvalue, ?_⟩
    rw [hf, evaluate, hvalue]
    rfl

/-- **Negating twice.** A formula comes back if and only if at most one negation leads it; of a
formula with more, two are gone. However many there are, the negation of a formula is a negation of
it, on either side, and has the opposite truth value under every assignment that gives truth values
to the atoms. -/
theorem negate_negate_and_opposite (f : Formula) :
    (f.negate.negate.same f = true ↔ f.leadingNegations ≤ 1) ∧
      (∀ g, f = not (not g) → f.negate.negate = g) ∧
      f.negate.isNegation f = true ∧ f.isNegation f.negate = true ∧
      ∀ a : Assignment, a.Decides f →
        ∃ b, f.evaluate a = .ofBool b ∧ f.negate.evaluate a = .ofBool (!b) := by
  refine ⟨same_negate_negate_iff f, ?_, isNegation_negate f, ?_, fun a => evaluate_negate⟩
  · rintro g rfl
    rfl
  · rw [isNegation_comm]
    exact isNegation_negate f

/-- Negating twice is not the identity: from `~~p` it leads to `p`. -/
theorem negate_negate_doubled :
    let p := atom ⟨'p', rfl⟩
    ¬ (not (not p)).negate.negate.same (not (not p)) = true := by
  decide

end Formula

end NaturalDeduction
