import NaturalDeduction.Formula.Equality

/-!
# Rules of implication

These rules lead from one or two formulas to a weaker one and are checked at the main operators
only. Where the two formulas play different roles, the one with the longer canonical form is taken
for the compound one, and the second one if both have the same length (`longerFirst`).
-/

namespace NaturalDeduction

/-- Two formulas, the longer one first; of two of the same length the second. -/
def longerFirst (f g : Formula) : Formula × Formula :=
  if g.canonicalLength < f.canonicalLength then (f, g) else (g, f)

/-- Whether `a` and `b` are `x` and `y` in one of the two orders. -/
def samePair (a b x y : Formula) : Bool :=
  (a.same x && b.same y) || (a.same y && b.same x)

namespace Rule

/-- From `p`, `p V q` or `q V p`. -/
def allowsAddition (target source : Formula) : Bool :=
  match target with
  | .binary .or l r => source.same l || source.same r
  | _ => false

/-- From `p` and `q`, `p & q` or `q & p`. -/
def allowsConjunction (target first second : Formula) : Bool :=
  match target with
  | .binary .and l r => samePair l r first second
  | _ => false

/-- From `p & q`, `p` or `q`. -/
def allowsSimplification (target source : Formula) : Bool :=
  match source with
  | .binary .and l r => target.same l || target.same r
  | _ => false

/-- From `p -> q` and `p`, `q`. -/
def allowsModusPonens (target first second : Formula) : Bool :=
  match longerFirst first second with
  | (.binary .implies l r, antecedent) => l.same antecedent && r.same target
  | _ => false

/-- From `p -> q` and `~q`, `~p`. -/
def allowsModusTollens (target first second : Formula) : Bool :=
  match longerFirst first second with
  | (.binary .implies l r, negated) => r.isNegation negated && l.isNegation target
  | _ => false

/-- Whether `p -> q` and `q -> r`, in this order, lead to `p -> r`. -/
def chains (target first second : Formula) : Bool :=
  match first, second, target with
  | .binary .implies p q, .binary .implies q' r, .binary .implies l m =>
    q.same q' && l.same p && m.same r
  | _, _, _ => false

/-- From `p -> q` and `q -> r`, `p -> r`. -/
def allowsHypotheticalSyllogism (target first second : Formula) : Bool :=
  chains target first second || chains target second first

/-- From `(p -> q) & (r -> s)` and `p V r`, `q V s`, where the operands of the disjunctions may
change places. -/
def allowsConstructiveDilemma (target first second : Formula) : Bool :=
  match longerFirst first second, target with
  | (.binary .and (.binary .implies p q) (.binary .implies r s), .binary .or l m),
      .binary .or x y => samePair p r l m && samePair q s x y
  | _, _ => false

/-- From `p V q` and `~p`, `q`, and from `p V q` and `~q`, `p`. -/
def allowsDisjunctiveSyllogism (target first second : Formula) : Bool :=
  match longerFirst first second with
  | (.binary .or l r, other) =>
    (l.isNegation other && r.same target) || (r.isNegation other && l.same target)
  | _ => false

end Rule

end NaturalDeduction
