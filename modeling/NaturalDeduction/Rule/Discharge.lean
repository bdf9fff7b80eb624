import NaturalDeduction.Formula.Equality
import NaturalDeduction.Rule.Basic

/-!
# Rules that discharge an assumption

Conditional and indirect proof cite an assumption and what was derived under it, in either order.
-/

namespace NaturalDeduction

/-- A cited line: its formula and the rule that introduced it. -/
structure Source where
  /-- The formula. -/
  proposition : Formula
  /-- The rule. -/
  rule : Rule

namespace Rule

/-- The ways to take one of two lines for the assumption and the other for what was derived. -/
def assumptionAndOther (a b : Source) : List (Formula × Formula) :=
  (if a.rule = .assumption then [(a.proposition, b.proposition)] else []) ++
    (if b.rule = .assumption then [(b.proposition, a.proposition)] else [])

/-- Under `p`, `q`; hence `p -> q`. -/
def allowsConditionalProof (target : Formula) (a b : Source) : Bool :=
  (assumptionAndOther a b).any fun (p, q) =>
    match target with
    | .binary .implies l r => l.same p && r.same q
    | _ => false

/-- Under `p`, `q & ~q`; hence `~p`. The assumption may be a negation itself. -/
def allowsIndirectProof (target : Formula) (a b : Source) : Bool :=
  (assumptionAndOther a b).any fun (p, q) =>
    target.isNegation p &&
      match q with
      | .binary .and l r => l.isNegation r
      | _ => false

end Rule

end NaturalDeduction
