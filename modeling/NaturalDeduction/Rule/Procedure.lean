import NaturalDeduction.Rule.Discharge
import NaturalDeduction.Rule.Implication
import NaturalDeduction.Rule.Operand
import NaturalDeduction.Rule.Quantifier
import NaturalDeduction.Rule.Replacement

/-!
# How rules are checked

Each rule is checked step by step: it looks at cited lines by their places, reads parts off formulas
and stops as soon as the answer is known. Any of these steps may fail (`RuleFault`). What the rules
allow is said without steps by the predicates of the same names in `NaturalDeduction.Rule`, and it
is a theorem that no step fails on as many lines as the rule wants and that the answers are those of
the predicates.

A rule that applies inside formulas calls itself for operands, and only so many calls can be open at
once. This number, the `room`, depends on where the check is called from (`Procedure.lift`). The few
calls that a rule makes to look at one pair of formulas do not nest and are not counted.
-/

namespace NaturalDeduction

/-- A check of a target against a source at their main operators. -/
abbrev SimpleProcedure : Type := (target source : Formula) → Except RuleFault Bool

namespace Procedure

/-! ## Cited lines -/

/-- The formula of a cited line, counted from zero. -/
def formulaAt (sources : List Source) (i : Nat) : Except RuleFault Formula :=
  match sources[i]? with
  | some s => .ok s.proposition
  | none => .error .missing

/-- The two lines, if there are exactly two. -/
def exactlyTwo : List Source → Except RuleFault (Source × Source)
  | [a, b] => .ok (a, b)
  | sources => .error (.count 2 sources.length)

/-- The formulas of the first two lines, the longer one first. -/
def longerOfTwo (sources : List Source) : Except RuleFault (Formula × Formula) := do
  return longerFirst (← formulaAt sources 0) (← formulaAt sources 1)

/-- Whether one of two formulas is the other one with a sign of negation in front. -/
def negates (f g : Formula) : Except RuleFault Bool :=
  (if g.former = .not then do return (← g.arg).same f else return false) <||>
    (if f.former = .not then do return (← f.arg).same g else return false)

/-! ## Rules of implication -/

/-- From `p`, `p V q` or `q V p`. -/
def addition (target : Formula) (sources : List Source) : Except RuleFault Bool :=
  match target with
  | .binary .or l r => do
    let source ← formulaAt sources 0
    return source.same l || source.same r
  | _ => return false

/-- From `p` and `q`, `p & q` or `q & p`. -/
def conjunction (target : Formula) (sources : List Source) : Except RuleFault Bool :=
  match target with
  | .binary .and l r => do
    return samePair l r (← formulaAt sources 0) (← formulaAt sources 1)
  | _ => return false

/-- From `p & q`, `p` or `q`. -/
def simplification (target : Formula) (sources : List Source) : Except RuleFault Bool := do
  match ← formulaAt sources 0 with
  | .binary .and l r => return target.same l || target.same r
  | _ => return false

/-- From `p -> q` and `p`, `q`. -/
def modusPonens (target : Formula) (sources : List Source) : Except RuleFault Bool := do
  match ← longerOfTwo sources with
  | (.binary .implies l r, antecedent) => return l.same antecedent && r.same target
  | _ => return false

/-- From `p -> q` and `~q`, `~p`. -/
def modusTollens (target : Formula) (sources : List Source) : Except RuleFault Bool := do
  match ← longerOfTwo sources with
  | (.binary .implies l r, negated) => negates r negated <&&> negates l target
  | _ => return false

/-- From `p -> q` and `q -> r`, in this order, `p -> r`. -/
def chains (target first second : Formula) : Except RuleFault Bool :=
  match first, second, target with
  | .binary .implies p q, .binary .implies q' r, .binary .implies _ _ =>
    (return q.same q') <&&> (do return (← target.lhs).same p) <&&>
      (do return (← target.rhs).same r)
  | _, _, _ => return false

/-- From `p -> q` and `q -> r`, `p -> r`. -/
def hypotheticalSyllogism (target : Formula) (sources : List Source) : Except RuleFault Bool := do
  let first ← formulaAt sources 0
  let second ← formulaAt sources 1
  chains target first second <||> chains target second first

/-- From `(p -> q) & (r -> s)` and `p V r`, `q V s`, where the operands of the disjunctions may
change places. -/
def constructiveDilemma (target : Formula) (sources : List Source) : Except RuleFault Bool := do
  let (both, either) ← longerOfTwo sources
  match both, either, target with
  | .binary .and c@(.binary .implies _ _) d@(.binary .implies _ _), .binary .or _ _,
      .binary .or _ _ =>
    (do return samePair (← c.lhs) (← d.lhs) (← either.lhs) (← either.rhs)) <&&>
      (do return samePair (← c.rhs) (← d.rhs) (← target.lhs) (← target.rhs))
  | _, _, _ => return false

/-- From `p V q` and `~p`, `q`, and from `p V q` and `~q`, `p`. -/
def disjunctiveSyllogism (target : Formula) (sources : List Source) : Except RuleFault Bool := do
  match ← longerOfTwo sources with
  | (.binary .or l r, other) =>
    (negates l other <&&> return r.same target) <||> (negates r other <&&> return l.same target)
  | _ => return false

/-! ## Rules that discharge an assumption -/

/-- The ways to take one of the two lines for the assumption and the other for what was derived. -/
def assumptionAndOther (sources : List Source) : Except RuleFault (List (Formula × Formula)) := do
  let (a, b) ← exactlyTwo sources
  return Rule.assumptionAndOther a b

/-- Under `p`, `q`; hence `p -> q`. -/
def conditionalProof (target : Formula) (sources : List Source) : Except RuleFault Bool := do
  (← assumptionAndOther sources).anyM fun (p, q) =>
    match target with
    | .binary .implies l r => return l.same p && r.same q
    | _ => return false

/-- Under `p`, `q & ~q`; hence `~p`. The assumption may be a negation itself. -/
def indirectProof (target : Formula) (sources : List Source) : Except RuleFault Bool := do
  (← assumptionAndOther sources).anyM fun (p, q) =>
    negates target p <&&>
      match q with
      | .binary .and l r => negates l r
      | _ => return false

/-! ## Rules of replacement -/

/-- `p & q` and `q & p`, `p V q` and `q V p`. -/
def commutes : SimpleProcedure := fun t s =>
  if !(t.former.isLattice && t.former = s.former) then return false
  else if !s.former.isLattice then throw .broken
  else
    (do return (← t.lhs).same (← s.rhs)) <&&> (do return (← t.rhs).same (← s.lhs))

/-- `(p & q) & r` and `p & (q & r)`, and likewise for disjunction. -/
def associates : SimpleProcedure := fun t s =>
  if !(t.former.isLattice && t.former = s.former) then return false
  else do
    let op := t.former
    let l ← t.lhs
    let r ← t.rhs
    (if l.former = op then do
      return (← op.join (← l.lhs) (← op.join (← l.rhs) r)).same s
    else return false) <||>
      (if r.former = op then do
        return (← op.join (← op.join l (← r.lhs)) (← r.rhs)).same s
      else return false)

/-- `p` and `~~p`. -/
def doublyNegates : SimpleProcedure := fun t s =>
  match longerFirst t s with
  | (.not (.not f), shorter) => return f.same shorter
  | _ => return false

/-- Whether the first formula is `~(p & q)` and the second `~p V ~q`, or the same with the
connectives exchanged. -/
def movesNegation : SimpleProcedure := fun negated other =>
  if !(negated.former = .not && other.former.isLattice) then return false
  else do
    let inner ← negated.arg
    (do return inner.former = (← other.dual)) <&&>
      (do negates (← inner.lhs) (← other.lhs)) <&&> (do negates (← inner.rhs) (← other.rhs))

/-- `~(p & q)` and `~p V ~q`, `~(p V q)` and `~p & ~q`. -/
def deMorgan : SimpleProcedure := fun t s =>
  if t.former = .not then movesNegation t s else movesNegation s t

/-- `p & (q V r)` and `(p & q) V (p & r)`, and the same with the connectives exchanged. -/
def distributes : SimpleProcedure := fun t s => do
  let (longer, shorter) := longerFirst s t
  if !shorter.former.isLattice then return false
  else
    let op := shorter.former
    let dual ← op.dual
    let inner ← shorter.rhs
    if !(inner.former = dual && longer.former = dual) then return false
    else
      (do return (← longer.lhs).same (← op.join (← shorter.lhs) (← inner.lhs))) <&&>
        (do return (← longer.rhs).same (← op.join (← shorter.lhs) (← inner.rhs)))

/-- `p -> q` and `~q -> ~p`. -/
def transposes : SimpleProcedure := fun t s =>
  match t, s with
  | .binary .implies tl tr, .binary .implies sl sr => negates tl sr <&&> negates tr sl
  | _, _ => return false

/-- Whether the first formula is `p -> q` and the second `~p V q`. -/
def impliesAsDisjunction : SimpleProcedure := fun conditional disjunction =>
  match conditional, disjunction with
  | .binary .implies p q, .binary .or l r => negates p l <&&> return q.same r
  | _, _ => return false

/-- `p -> q` and `~p V q`. -/
def impliesMaterially : SimpleProcedure := fun t s =>
  if t.former = .binary .implies then impliesAsDisjunction t s else impliesAsDisjunction s t

/-- `p <-> q` and `(p -> q) & (q -> p)`, `p <-> q` and `(p & q) V (~p & ~q)`. -/
def equalsMaterially : SimpleProcedure := fun t s => do
  let (longer, shorter) := longerFirst t s
  if shorter.former ≠ .binary .equivalent then return false
  else
    let p ← shorter.lhs
    let q ← shorter.rhs
    match longer with
    | .binary .and forward@(.binary .implies _ _) backward@(.binary .implies _ _) =>
      (do return (← forward.lhs).same p) <&&> (do return (← forward.rhs).same q) <&&>
        (do return (← backward.lhs).same q) <&&> (do return (← backward.rhs).same p)
    | .binary .or both@(.binary .and _ _) neither@(.binary .and _ _) =>
      (do return (← both.lhs).same p) <&&> (do return (← both.rhs).same q) <&&>
        (do negates (← neither.lhs) p) <&&> (do negates (← neither.rhs) q)
    | _ => return false

/-- `(p & q) -> r` and `p -> (q -> r)`. -/
def exports : SimpleProcedure := fun t s =>
  (return Rule.exportsFrom t s) <||> return Rule.exportsFrom s t

/-- `p` and `p V p`. -/
def isTautologous : SimpleProcedure := fun t s =>
  (return Rule.repeats s t) <||> return Rule.repeats t s

/-! ## Rules for quantifiers -/

/-- Whether the second text is the first with some character for every `v`. -/
def isInstance (scope : List Char) (v : Char) (result : List Char) : Except RuleFault Bool :=
  match scope.findIdx? (· == v) with
  | none => return scope == result
  | some i =>
    if result.length ≤ i then return false
    else do
      let c ← Text.charAt result i
      return (scope.map fun x => if x = v then c else x) == result

/-- From an instance in which `x` does not occur, `Ex(...)`. -/
def generalizes : SimpleProcedure := fun t s =>
  if t.former ≠ .quantified .existential then return false
  else do
    let source := s.chars .tight
    let v ← t.var
    if source.contains v.char then return false
    else isInstance ((← t.arg).chars .tight) v.char source

/-- From `Ax(...)`, an instance. -/
def instantiation (target : Formula) (sources : List Source) : Except RuleFault Bool := do
  let source ← formulaAt sources 0
  if source.former ≠ .quantified .universal then return false
  else isInstance ((← source.arg).chars .tight) (← source.var).char (target.chars .tight)

/-- Whether a formula is the negation of a quantified formula. -/
def negatesQuantified (f : Formula) : Except RuleFault Bool :=
  if f.former = .not then do return (← f.arg).former.isQuantifier else return false

/-- The quantifiers that a formula begins with, each with its variable, and what stands under them.
-/
def splitBlock : Formula → Except RuleFault (List (Former × Letter) × Formula)
  | f@(.quantified _ _ g) => do
    let v ← f.var
    let (block, body) ← splitBlock g
    return ((f.former, v) :: block, body)
  | f => return ([], f)

/-- A formula under quantifiers. -/
def formBlock (block : List (Former × Letter)) (body : Formula) : Except RuleFault Formula :=
  block.foldrM (fun (q, v) f => q.bind v f) body

/-- The quantifiers exchanged for their duals. -/
def flipBlock (block : List (Former × Letter)) : Except RuleFault (List (Former × Letter)) :=
  block.mapM fun (q, v) => do return (← q.dual, v)

/-- The search for a length at which two blocks are dual and the formulas under them negate each
other. It stops where the blocks differ. -/
def searchBlocks (first second : List (Former × Letter)) (f g : Formula) :
    List Nat → Except RuleFault Bool
  | [] => return false
  | k :: ks => do
    if (← flipBlock (first.take k)) ≠ second.take k then return false
    else
      negates (← formBlock (first.drop k) f) (← formBlock (second.drop k) g) <||>
        searchBlocks first second f g ks

/-- Whether the first formula negates a quantified formula and the second is the same with the
negation moved through a block of quantifiers. -/
def movesThroughBlock : SimpleProcedure := fun negated other => do
  if !((← negatesQuantified negated) && other.former.isQuantifier) then return false
  else if negated.former ≠ .not then throw .broken
  else
    let (first, f) ← splitBlock (← negated.arg)
    let (second, g) ← splitBlock other
    searchBlocks first second f g (List.range' 1 (min first.length second.length))

/-- `~Ex(...)` and `Ax(~...)`, `~Ax(...)` and `Ex(~...)`, also for blocks of quantifiers, which are
all exchanged. -/
def negatesQuantifier : SimpleProcedure := fun t s => do
  if ← negatesQuantified t then movesThroughBlock t s else movesThroughBlock s t

/-! ## Rules inside formulas -/

/-- The rule at some place inside the formulas, with room for so many calls. -/
def lift (R : SimpleProcedure) : Nat → SimpleProcedure
  | 0, _, _ => throw .exhausted
  | room + 1, t, s =>
    R t s <||>
      match t, s with
      | .not f, .not g => lift R room f g
      | .quantified _ _ _, .quantified _ _ _ =>
        if t.operator = s.operator then do lift R room (← t.arg) (← s.arg) else return false
      | .binary _ _ _, .binary _ _ _ =>
        if t.operator = s.operator then
          ((do return (← t.lhs).same (← s.lhs)) <&&> (do lift R room (← t.rhs) (← s.rhs))) <||>
            ((do return (← t.rhs).same (← s.rhs)) <&&> (do lift R room (← t.lhs) (← s.lhs)))
        else return false
      | _, _ => return false

/-- A rule inside the target and the formula of the first line. -/
def inside (R : SimpleProcedure) (room : Nat) (target : Formula) (sources : List Source) :
    Except RuleFault Bool := do
  lift R room target (← formulaAt sources 0)

end Procedure

end NaturalDeduction
