import NaturalDeduction.Rule.Lift

/-!
# Rules for quantifiers

An instance of a quantified formula is recognised on canonical forms: the variable is replaced
throughout the scope by the character that stands in the instance at the place of its first
occurrence (`isInstance`).
-/

namespace NaturalDeduction.Rule

/-- Whether the second text is the first with some character for every `v`. -/
def isInstance (scope : List Char) (v : Char) (result : List Char) : Bool :=
  match scope.findIdx? (· == v) with
  | none => scope == result
  | some i =>
    match result[i]? with
    | none => false
    | some c => (scope.map fun x => if x = v then c else x) == result

/-- From an instance in which `x` does not occur, `Ex(...)`. -/
def generalizes (t s : Formula) : Bool :=
  match t with
  | .quantified .existential v f =>
    let source := s.chars .tight
    !source.contains v.char && isInstance (f.chars .tight) v.char source
  | _ => false

/-- From `Ax(...)`, an instance. -/
def allowsInstantiation (target source : Formula) : Bool :=
  match source with
  | .quantified .universal v f => isInstance (f.chars .tight) v.char (target.chars .tight)
  | _ => false

/-- Whether two formulas begin with blocks of dual quantifiers over the same variables, and one of
the formulas under these blocks is the negation of the other. -/
def dualBlocks : Formula → Formula → Bool
  | .quantified q v f, .quantified q' v' g =>
    q' = q.dual && v = v' && (f.isNegation g || dualBlocks f g)
  | _, _ => false

/-- Whether the first formula negates a quantified formula and the second is the same with the
negation moved through a block of quantifiers. -/
def movesThroughBlock : SimpleRule
  | .not f, g => dualBlocks f g
  | _, _ => false

/-- `~Ex(...)` and `Ax(~...)`, `~Ax(...)` and `Ex(~...)`, also for blocks of quantifiers, which are
all exchanged. -/
def negatesQuantifier (t s : Formula) : Bool :=
  match t with
  | .not (.quantified _ _ _) => movesThroughBlock t s
  | _ => movesThroughBlock s t

end NaturalDeduction.Rule
