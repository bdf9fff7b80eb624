import NaturalDeduction.Formula.Printer

/-!
# Equality and negation of formulas

Two formulas are the same if their canonical forms are (`Formula.same`). This sees through the way
in which the letters of a predicate were grouped into terms, and through nothing else. A formula is
a negation of another if one of them is the other with one more sign of negation
(`Formula.isNegation`); double negations are not removed.
-/

namespace NaturalDeduction.Formula

/-- Equality of canonical forms. -/
def same (f g : Formula) : Bool :=
  f.chars .tight == g.chars .tight

/-- Formulas are the same if they are written with the same characters. -/
theorem same_iff {f g : Formula} : f.same g = true ↔ f.chars .tight = g.chars .tight := by
  simp [same]

/-- A formula is the same as itself. -/
@[simp] theorem same_refl (f : Formula) : f.same f = true := by
  simp [same]

/-- Sameness does not depend on which formula comes first. -/
theorem same_comm (f g : Formula) : f.same g = g.same f := by
  rw [Bool.eq_iff_iff, same_iff, same_iff, eq_comm]

/-- What is the same as the same formula is the same. -/
theorem same_trans {f g h : Formula} (hfg : f.same g = true) (hgh : g.same h = true) :
    f.same h = true := by
  rw [same_iff] at *
  exact hfg.trans hgh

/-- Whether the first formula is the second one with a sign of negation in front. -/
def isNegationOf : Formula → Formula → Bool
  | not f, g => f.same g
  | _, _ => false

/-- Whether one of two formulas is the other one with a sign of negation in front. -/
def isNegation (f g : Formula) : Bool :=
  g.isNegationOf f || f.isNegationOf g

/-- Which of two formulas comes first does not matter, as either may be the negation of the other.
-/
theorem isNegation_comm (f g : Formula) : f.isNegation g = g.isNegation f :=
  Bool.or_comm _ _

/-- The negation of a formula is a negation of it. -/
theorem isNegation_negate (f : Formula) : f.negate.isNegation f = true := by
  cases f <;> simp [negate, isNegation, isNegationOf]

end NaturalDeduction.Formula
