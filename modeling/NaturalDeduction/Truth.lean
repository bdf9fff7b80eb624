import NaturalDeduction.Formula.Equality
import NaturalDeduction.Value

/-!
# Truth values and evaluation

An assignment gives values to the canonical forms of atomic formulas. What is not assigned is
indeterminate, and what is assigned need not be a truth value. The truth functions ask of their
arguments only whether they are truth or falsity and always answer with one of these, so that what
is indeterminate or no truth value at all does not spread: `p V q` is true if `p` is, whatever `q`.

Quantified formulas are not interpreted. They are looked up like atomic ones.
-/

namespace NaturalDeduction

/-- What a formula can evaluate to. -/
inductive TruthValue where
  /-- Truth or falsity. -/
  | ofBool (b : Bool)
  /-- The value of an atomic formula that is not assigned. -/
  | indeterminate
  /-- A value that is not a truth value. -/
  | other (v : Value)
deriving Inhabited

namespace TruthValue

/-- A value as a truth value. -/
def ofValue : Value → TruthValue
  | .bool b => ofBool b
  | v => other v

/-- Whether a value is truth. -/
def isTrue : TruthValue → Bool
  | ofBool b => b
  | _ => false

/-- Whether a value is falsity. -/
def isFalse : TruthValue → Bool
  | ofBool b => !b
  | _ => false

/-- Negation is true of falsity alone. -/
def not (p : TruthValue) : Bool :=
  p.isFalse

/-- A conjunction is true if both sides are truth. -/
def and (p q : TruthValue) : Bool :=
  p.isTrue && q.isTrue

/-- A disjunction is true if one side is truth. -/
def or (p q : TruthValue) : Bool :=
  p.isTrue || q.isTrue

/-- A conditional is true if its antecedent is falsity or its consequent is truth. -/
def implies (p q : TruthValue) : Bool :=
  p.isFalse || q.isTrue

/-- A biconditional is true if both sides are truth or both are falsity. -/
def equivalent (p q : TruthValue) : Bool :=
  (p.isTrue && q.isTrue) || (p.isFalse && q.isFalse)

/-- Whether a value counts as something. The indeterminate value refuses the question. -/
def toBool? : TruthValue → Option Bool
  | ofBool b => some b
  | indeterminate => none
  | other v => some (!v.isFalsy)

end TruthValue

/-- The truth function of a connective. -/
def Connective.truth : Connective → TruthValue → TruthValue → Bool
  | .or => TruthValue.or
  | .and => TruthValue.and
  | .implies => TruthValue.implies
  | .equivalent => TruthValue.equivalent

/-- A value for each canonical form. -/
abbrev Assignment : Type := String → TruthValue

/-- The assignment that a table of values gives. -/
def Assignment.ofTable (table : List (String × Value)) : Assignment :=
  fun name =>
    match table.lookup name with
    | some v => .ofValue v
    | none => .indeterminate

namespace Formula

/-- The value of a formula under an assignment. -/
def evaluate (a : Assignment) : Formula → TruthValue
  | f@(atom _) => a f.canonical
  | f@(predicate _ _ _) => a f.canonical
  | not f => .ofBool (f.evaluate a).not
  | binary op l r => .ofBool (op.truth (l.evaluate a) (r.evaluate a))
  | f@(quantified _ _ _) => a f.canonical

end Formula

end NaturalDeduction
