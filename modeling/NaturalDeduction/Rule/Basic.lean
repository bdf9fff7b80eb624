import NaturalDeduction.Text.Blank

/-!
# The rules of deduction

The catalogue of rules with their names and the number of lines each of them cites. A rule is found
by its name, in which case, blanks at the ends, the length of inner blanks and apostrophes do not
matter (`Rule.ofName?`).
-/

namespace NaturalDeduction

/-- The rules, in the order of their names. -/
inductive Rule where
  /-- From `p`, a disjunction with `p`. -/
  | addition
  /-- Regrouping of conjunctions and of disjunctions. -/
  | associativity
  /-- A supposition, to be discharged later. -/
  | assumption
  /-- Exchange of the operands of conjunctions and of disjunctions. -/
  | commutativity
  /-- From `q` derived under `p`, the conditional; this discharges `p`. -/
  | conditionalProof
  /-- From `p` and `q`, their conjunction. -/
  | conjunction
  /-- From two conditionals and a disjunction of their antecedents, one of their consequents. -/
  | constructiveDilemma
  /-- Negation of a conjunction or disjunction, moved to its operands. -/
  | deMorgans
  /-- From a disjunction and the negation of one operand, the other. -/
  | disjunctiveSyllogism
  /-- Distribution of conjunction over disjunction and conversely. -/
  | distribution
  /-- Two negations added or removed. -/
  | doubleNegation
  /-- From an instance, that there is one. -/
  | existentialGeneralization
  /-- A conjunction in an antecedent as two antecedents. -/
  | exportation
  /-- Two conditionals in a chain. -/
  | hypotheticalSyllogism
  /-- From a contradiction derived under `p`, the negation; this discharges `p`. -/
  | indirectProof
  /-- A biconditional as two conditionals, or as agreement. -/
  | materialEquivalence
  /-- A conditional as a disjunction. -/
  | materialImplication
  /-- From a conditional and its antecedent, the consequent. -/
  | modusPonens
  /-- From a conditional and the negation of its consequent, that of the antecedent. -/
  | modusTollens
  /-- What the proof starts from. -/
  | premise
  /-- Negation of a block of quantifiers, moved inside. -/
  | quantifierNegation
  /-- From a conjunction, one of its operands. -/
  | simplification
  /-- A disjunction of a formula with itself. -/
  | tautology
  /-- A conditional with both sides negated and exchanged. -/
  | transposition
  /-- From a universal formula, an instance. -/
  | universalInstantiation
deriving DecidableEq

namespace Rule

/-- All rules. -/
def all : List Rule :=
  [.addition, .associativity, .assumption, .commutativity, .conditionalProof, .conjunction,
    .constructiveDilemma, .deMorgans, .disjunctiveSyllogism, .distribution, .doubleNegation,
    .existentialGeneralization, .exportation, .hypotheticalSyllogism, .indirectProof,
    .materialEquivalence, .materialImplication, .modusPonens, .modusTollens, .premise,
    .quantifierNegation, .simplification, .tautology, .transposition, .universalInstantiation]

/-- The name of a rule as it stands in proofs. -/
def name : Rule → String
  | addition => "Addition"
  | associativity => "Associativity"
  | assumption => "Assumption"
  | commutativity => "Commutativity"
  | conditionalProof => "Conditional Proof"
  | conjunction => "Conjunction"
  | constructiveDilemma => "Constructive Dilemma"
  | deMorgans => "De Morgan's"
  | disjunctiveSyllogism => "Disjunctive Syllogism"
  | distribution => "Distribution"
  | doubleNegation => "Double Negation"
  | existentialGeneralization => "Existential Generalization"
  | exportation => "Exportation"
  | hypotheticalSyllogism => "Hypothetical Syllogism"
  | indirectProof => "Indirect Proof"
  | materialEquivalence => "Material Equivalence"
  | materialImplication => "Material Implication"
  | modusPonens => "Modus Ponens"
  | modusTollens => "Modus Tollens"
  | premise => "Premise"
  | quantifierNegation => "Quantifier Negation"
  | simplification => "Simplification"
  | tautology => "Tautology"
  | transposition => "Transposition"
  | universalInstantiation => "Universal Instantiation"

/-- The number of lines a rule cites. -/
def citedCount : Rule → Nat
  | addition => 1
  | associativity => 1
  | assumption => 0
  | commutativity => 1
  | conditionalProof => 2
  | conjunction => 2
  | constructiveDilemma => 2
  | deMorgans => 1
  | disjunctiveSyllogism => 2
  | distribution => 1
  | doubleNegation => 1
  | existentialGeneralization => 1
  | exportation => 1
  | hypotheticalSyllogism => 2
  | indirectProof => 2
  | materialEquivalence => 1
  | materialImplication => 1
  | modusPonens => 2
  | modusTollens => 2
  | premise => 0
  | quantifierNegation => 1
  | simplification => 1
  | tautology => 1
  | transposition => 1
  | universalInstantiation => 1

/-- Every rule is in the catalogue. -/
theorem mem_all (r : Rule) : r ∈ all := by
  cases r <;> decide

/-! ## Names -/

/-- Lower case, for the letters that occur in names of rules. A name that holds any other letter is
the name of no rule, however that letter is changed; the sign of the kelvin is one of two
characters beyond the first 128 whose lower case is among them, and the other becomes two. -/
def lowerChar (c : Char) : Char :=
  if c = Char.ofNat 0x212A then 'k' else c.toLower

/-- A name without the differences that do not matter: apostrophes are dropped, letters are in
lower case, and blanks are single spaces between words. -/
def normalizeName (s : List Char) : List Char :=
  Text.joinWords ((s.filter fun c => c != '\x27').map lowerChar)

/-- The rule with a given name. -/
def ofName? (s : String) : Option Rule :=
  all.find? fun r => normalizeName r.name.toList == normalizeName s.toList

/-- The name of a rule in capitals, with low lines for spaces and without apostrophes. -/
def tag (r : Rule) : String :=
  String.ofList ((r.name.toList.filter fun c => c != '\x27').map fun c =>
    if c = ' ' then '_' else c.toUpper)

/-- Rules that put nothing on the assumptions they rest on: what a premise says is given, and the
two rules of discharge close the assumption they cite. -/
def restsOnNothing : Rule → Bool
  | premise => true
  | conditionalProof => true
  | indirectProof => true
  | _ => false

/-- Whether a line with the rule rests on what the lines rest on that it cites. -/
def restsOnCitations (r : Rule) : Bool :=
  r != .assumption && !r.restsOnNothing

end Rule

end NaturalDeduction
