import NaturalDeduction.Error
import NaturalDeduction.Formula.Construct
import NaturalDeduction.Solver

/-!
# Satisfiability, tautologies and entailment

A formula is abstracted to a Boolean expression over names: atomic and quantified formulas become
the names of their canonical forms, and the connectives stay (`Formula.abstract`). Satisfiability is
left to a solver, and tautology, contradiction, equivalence and entailment are asked in terms of it.

Predicates and quantified formulas are names without structure here. A formula that is found to be a
tautology is valid, but not every valid formula is found.
-/

namespace NaturalDeduction.Formula

/-- The formula as an expression over canonical forms. -/
def abstract (S : Solver) : Formula → S.Expr
  | f@(atom _) => S.name f.canonical
  | f@(predicate _ _ _) => S.name f.canonical
  | not f => S.not (f.abstract S)
  | binary op l r => S.binary op (l.abstract S) (r.abstract S)
  | f@(quantified _ _ _) => S.name f.canonical

/-- Whether some truth values make a formula true. -/
def isSatisfiable (S : Solver) (f : Formula) : Bool :=
  S.satisfiable (f.abstract S)

/-- Whether all truth values make a formula true. -/
def isTautology (S : Solver) (f : Formula) : Bool :=
  !(not f).isSatisfiable S

/-- Whether no truth values make a formula true. -/
def isContradiction (S : Solver) (f : Formula) : Bool :=
  !f.isSatisfiable S

/-- Whether all truth values give two formulas the same truth value. -/
def isEquivalent (S : Solver) (f g : Formula) : Bool :=
  (binary .equivalent f g).isTautology S

/-- Whether all truth values that make the premises true make the conclusion true. -/
def entails (S : Solver) (premises : List Formula) (conclusion : Formula) : Bool :=
  !S.satisfiable (S.all (premises.map (abstract S) ++ [S.not (conclusion.abstract S)]))

/-- The truth value of a formula, when atomic and quantified formulas have the truth values that
their canonical forms are given. -/
def truth (v : String → Bool) : Formula → Bool
  | f@(atom _) => v f.canonical
  | f@(predicate _ _ _) => v f.canonical
  | not f => !f.truth v
  | binary op l r => op.apply (l.truth v) (r.truth v)
  | f@(quantified _ _ _) => v f.canonical

/-- Abstraction keeps the truth value. -/
theorem eval_abstract (S : Solver) (v : String → Bool) (f : Formula) :
    S.eval v (f.abstract S) = f.truth v := by
  induction f with
  | atom a => exact S.eval_name v _
  | predicate P t ts => exact S.eval_name v _
  | not f ih => rw [abstract, S.eval_not, ih, truth]
  | binary op l r ihl ihr => rw [abstract, S.eval_binary, ihl, ihr, truth]
  | quantified q x f => exact S.eval_name v _

/-- Entailment between values, which are read in order, the conclusion last. -/
def entailsValues (S : Solver) (premises conclusion : Value) : Except Error Bool := do
  let some items := premises.items? | .error .wrongKind
  let fs ← items.mapM ofValue
  let g ← ofValue conclusion
  .ok (entails S fs g)

end NaturalDeduction.Formula
