import NaturalDeduction.Rule.Lift

/-!
# Formulas with one place left open

A `Context` is a formula in which one place is open, below any number of operators. Putting a
formula there is `Context.fill`. A rule that holds of two formulas holds, lifted, of the two
formulas that a context makes of them (`lift_fill`).
-/

namespace NaturalDeduction

/-- A formula with one open place. -/
inductive Context where
  /-- The open place itself. -/
  | hole
  /-- The place is below a negation. -/
  | not (arg : Context)
  /-- The place is in the scope of a quantifier. -/
  | quantified (q : Quantifier) (var : Letter) (scope : Context)
  /-- The place is on the left side of a connective. -/
  | left (op : Connective) (lhs : Context) (rhs : Formula)
  /-- The place is on the right side of a connective. -/
  | right (op : Connective) (lhs : Formula) (rhs : Context)

namespace Context

/-- The formula with `f` at the open place. -/
def fill : Context → Formula → Formula
  | hole, f => f
  | not C, f => .not (C.fill f)
  | quantified q v C, f => .quantified q v (C.fill f)
  | left op C r, f => .binary op (C.fill f) r
  | right op l C, f => .binary op l (C.fill f)

end Context

/-- A rule that holds of two formulas holds, lifted, at the same place of a context. -/
theorem lift_fill (R : SimpleRule) (C : Context) {t s : Formula} (h : R t s = true) :
    lift R (C.fill t) (C.fill s) = true := by
  induction C with
  | hole => exact lift_of_rule h
  | not C ih => exact lift_not ih
  | quantified q v C ih => exact lift_quantified q v ih
  | left op C r ih => exact lift_left op (Formula.same_refl r) ih
  | right op l C ih => exact lift_right op (Formula.same_refl l) ih

end NaturalDeduction
