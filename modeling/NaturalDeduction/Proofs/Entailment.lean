import NaturalDeduction.Semantics

/-!
# What is asked of a solver

Entailment is what it should be, for every solver: truth of the conclusion wherever the premises are
true (`Formula.entails_iff`). The same goes for satisfiability, contradiction, tautology and
equivalence of formulas (`Formula.isSatisfiable_iff` and those after it). Abstraction keeps truth
values, so all of this is a matter of what the solver says of the abstracted formula.
-/

namespace NaturalDeduction.Formula

variable (S : Solver)

/-- A formula is satisfiable if it is true under some truth values. -/
theorem isSatisfiable_iff (f : Formula) : f.isSatisfiable S = true ↔ ∃ v, f.truth v = true := by
  rw [isSatisfiable, S.satisfiable_iff]
  simp only [eval_abstract]

/-- A contradiction is false under all truth values. -/
theorem isContradiction_iff (f : Formula) :
    f.isContradiction S = true ↔ ∀ v, f.truth v = false := by
  rw [isContradiction, Bool.not_eq_true', ← Bool.not_eq_true, isSatisfiable_iff]
  simp

/-- A tautology is true under all truth values. -/
theorem isTautology_iff (f : Formula) : f.isTautology S = true ↔ ∀ v, f.truth v = true := by
  have hnot : f.isTautology S = (not f).isContradiction S := rfl
  rw [hnot, isContradiction_iff]
  simp [truth]

/-- Equivalent formulas have the same truth value under all truth values. -/
theorem isEquivalent_iff (f g : Formula) :
    isEquivalent S f g = true ↔ ∀ v, f.truth v = g.truth v := by
  rw [isEquivalent, isTautology_iff]
  simp [truth, Connective.apply]

/-- Premises entail a conclusion if it is true under all truth values that make them true. -/
theorem entails_iff {premises : List Formula} {conclusion : Formula} :
    entails S premises conclusion = true ↔
      ∀ v, (∀ f ∈ premises, f.truth v = true) → conclusion.truth v = true := by
  have hall : ∀ v, S.eval v (S.all
        (premises.map (abstract S) ++ [S.not (conclusion.abstract S)])) = true ↔
      (∀ f ∈ premises, f.truth v = true) ∧ conclusion.truth v = false := by
    intro v
    rw [S.eval_all]
    simp [S.eval_not, eval_abstract]
  rw [entails, Bool.not_eq_true', ← Bool.not_eq_true, S.satisfiable_iff]
  constructor
  · intro hnone v hpremises
    by_cases hc : conclusion.truth v = true
    · exact hc
    · exact absurd ⟨v, (hall v).2 ⟨hpremises, Bool.eq_false_iff.2 hc⟩⟩ hnone
  · rintro hentails ⟨v, hv⟩
    obtain ⟨hpremises, hc⟩ := (hall v).1 hv
    rw [hentails v hpremises] at hc
    cases hc

end NaturalDeduction.Formula
