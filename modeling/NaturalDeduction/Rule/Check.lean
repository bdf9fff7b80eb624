import NaturalDeduction.Rule.Procedure

/-!
# Checking an application of a rule

`Rule.check` puts a formula and cited lines to a rule. Lines that the rule does not look at are not
missed: a rule that refuses a target by its form does so before it looks at any line.
-/

namespace NaturalDeduction.Rule

/-- The rule that a value is the name of. -/
def ofValue (v : Value) : Except Error Rule :=
  match v.toText?.bind ofName? with
  | some r => .ok r
  | none => .error (.unknownRule v)

/-- The simple rules that apply inside formulas. -/
def simple? : Rule → Option SimpleRule
  | associativity => some associates
  | commutativity => some commutes
  | deMorgans => some deMorgan
  | distribution => some distributes
  | doubleNegation => some doublyNegates
  | existentialGeneralization => some generalizes
  | exportation => some exports
  | materialEquivalence => some equalsMaterially
  | materialImplication => some impliesMaterially
  | quantifierNegation => some negatesQuantifier
  | tautology => some isTautologous
  | transposition => some transposes
  | _ => none

/-- Whether a formula follows from cited lines by a rule, with room for so many calls of a rule
inside formulas. -/
def check (room : Nat) (rule : Rule) (target : Formula) (sources : List Source) :
    Except RuleFault Bool :=
  match rule with
  | addition => Procedure.addition target sources
  | associativity => Procedure.inside Procedure.associates room target sources
  | assumption => return true
  | commutativity => Procedure.inside Procedure.commutes room target sources
  | conditionalProof => Procedure.conditionalProof target sources
  | conjunction => Procedure.conjunction target sources
  | constructiveDilemma => Procedure.constructiveDilemma target sources
  | deMorgans => Procedure.inside Procedure.deMorgan room target sources
  | disjunctiveSyllogism => Procedure.disjunctiveSyllogism target sources
  | distribution => Procedure.inside Procedure.distributes room target sources
  | doubleNegation => Procedure.inside Procedure.doublyNegates room target sources
  | existentialGeneralization => Procedure.inside Procedure.generalizes room target sources
  | exportation => Procedure.inside Procedure.exports room target sources
  | hypotheticalSyllogism => Procedure.hypotheticalSyllogism target sources
  | indirectProof => Procedure.indirectProof target sources
  | materialEquivalence => Procedure.inside Procedure.equalsMaterially room target sources
  | materialImplication => Procedure.inside Procedure.impliesMaterially room target sources
  | modusPonens => Procedure.modusPonens target sources
  | modusTollens => Procedure.modusTollens target sources
  | premise => return true
  | quantifierNegation => Procedure.inside Procedure.negatesQuantifier room target sources
  | simplification => Procedure.simplification target sources
  | tautology => Procedure.inside Procedure.isTautologous room target sources
  | transposition => Procedure.inside Procedure.transposes room target sources
  | universalInstantiation => Procedure.instantiation target sources

end NaturalDeduction.Rule
