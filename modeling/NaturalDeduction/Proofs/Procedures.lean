import NaturalDeduction.Proofs.Blocks
import NaturalDeduction.Proofs.Outcome
import NaturalDeduction.Rule.Check

/-!
# Rules are checked without faults

Every step of a check finds what it looks for: sides are asked of connectives only, arguments of
negations and quantified formulas, duals of conjunction, disjunction and quantifiers, and characters
at places that are in the text. So each procedure has an answer, and it is what the predicate of the
same name says (`Procedure.negates_eq` to `Procedure.negatesQuantifier_eq`).

Rules inside formulas are the one case in which a check fails, if there is too little room for the
calls that it takes. What has to be called is listed by `visits`, so the outcome is known for every
room (`Procedure.lift_eq`). All rules together: with as many lines as it wants, a rule answers what
it allows if there is room for it, and otherwise it fails for want of room (`Rule.exists_answers`).
-/

namespace NaturalDeduction

namespace Procedure

/-! ## Answers that are joined -/

section

variable {ε : Type} {x y : Except ε Bool} {a b : Bool}

/-- Both answers are known. -/
theorem and_eq (hx : x = .ok a) (hy : y = .ok b) : (x <&&> y) = .ok (a && b) := by
  subst hx hy
  cases a <;> rfl

/-- Both answers are known. -/
theorem or_eq (hx : x = .ok a) (hy : y = .ok b) : (x <||> y) = .ok (a || b) := by
  subst hx hy
  cases a <;> rfl

end

variable (t s f g : Formula)

/-- Looking for a sign of negation comes to the comparison with the negation. -/
theorem negates_eq : negates f g = .ok (f.isNegation g) := by
  refine or_eq ?_ ?_
  · cases g <;> rfl
  · cases f <;> rfl

/-! ## Replacement -/

/-- A formula that a connective has formed has two sides, so asking for them does not fail. -/
theorem exists_of_former_eq_binary {f : Formula} {op : Connective}
    (h : f.former = .binary op) : ∃ l r, f = .binary op l r := by
  cases f with
  | binary op' l r =>
    cases h
    exact ⟨l, r, rfl⟩
  | _ => cases h

/-- Exchanging sides, step by step. -/
theorem commutes_eq : commutes t s = .ok (Rule.commutes t s) := by
  cases t with
  | binary op tl tr =>
    cases s with
    | binary op' sl sr => cases op <;> cases op' <;> first | rfl | exact and_eq rfl rfl
    | _ => cases op <;> rfl
  | _ => rfl

/-- Regrouping, step by step. -/
theorem associates_eq : associates t s = .ok (Rule.associates t s) := by
  cases t with
  | binary op tl tr =>
    cases s with
    | binary op' sl sr =>
      cases op <;> cases op' <;> first
        | rfl
        | (refine or_eq ?_ ?_
           · cases tl with
             | binary o p q => cases o <;> rfl
             | _ => rfl
           · cases tr with
             | binary o p q => cases o <;> rfl
             | _ => rfl)
    | _ => cases op <;> rfl
  | _ => rfl

/-- Double negation, step by step. -/
theorem doublyNegates_eq : doublyNegates t s = .ok (Rule.doublyNegates t s) := by
  unfold doublyNegates Rule.doublyNegates
  rcases longerFirst t s with ⟨longer, shorter⟩
  cases longer with
  | not f => cases f <;> rfl
  | _ => rfl

/-- A negation that moves to the sides, step by step: the dual is asked for where there is one. -/
theorem movesNegation_eq : movesNegation t s = .ok (Rule.movesNegation t s) := by
  cases t with
  | not f =>
    cases s with
    | binary op l r =>
      cases f with
      | binary op' p q =>
        cases op <;> cases op' <;> first | rfl | exact and_eq (negates_eq p l) (negates_eq q r)
      | _ => cases op <;> rfl
    | _ => cases f <;> rfl
  | _ => rfl

/-- The laws of De Morgan, step by step. -/
theorem deMorgan_eq : deMorgan t s = .ok (Rule.deMorgan t s) := by
  cases t <;> exact movesNegation_eq _ _

/-- Distribution, step by step: the dual is asked for where there is one. -/
theorem distributes_eq : distributes t s = .ok (Rule.distributes t s) := by
  unfold distributes Rule.distributes
  rcases longerFirst s t with ⟨longer, shorter⟩
  cases shorter with
  | binary op p inner =>
    cases inner with
    | binary o q q' =>
      cases longer with
      | binary outer l r =>
        cases op <;> cases o <;> cases outer <;> first | rfl | exact and_eq rfl rfl
      | _ => cases op <;> cases o <;> rfl
    | _ => cases op <;> cases longer <;> rfl
  | _ => cases longer <;> rfl

/-- Turning a conditional round, step by step. -/
theorem transposes_eq : transposes t s = .ok (Rule.transposes t s) := by
  cases t with
  | binary op tl tr =>
    cases s with
    | binary op' sl sr =>
      cases op <;> cases op' <;> first | rfl | exact and_eq (negates_eq tl sr) (negates_eq tr sl)
    | _ => cases op <;> rfl
  | _ => rfl

/-- A conditional read as a disjunction, step by step. -/
theorem impliesAsDisjunction_eq :
    impliesAsDisjunction t s = .ok (Rule.impliesAsDisjunction t s) := by
  cases t with
  | binary op p q =>
    cases s with
    | binary op' l r => cases op <;> cases op' <;> first | rfl | exact and_eq (negates_eq p l) rfl
    | _ => cases op <;> rfl
  | _ => rfl

/-- The reading of conditionals in both directions, step by step. -/
theorem impliesMaterially_eq : impliesMaterially t s = .ok (Rule.impliesMaterially t s) := by
  cases t with
  | binary op p q => cases op <;> exact impliesAsDisjunction_eq _ _
  | _ => exact impliesAsDisjunction_eq _ _

/-- The readings of biconditionals, step by step. -/
theorem equalsMaterially_eq : equalsMaterially t s = .ok (Rule.equalsMaterially t s) := by
  unfold equalsMaterially Rule.equalsMaterially
  rcases longerFirst t s with ⟨longer, shorter⟩
  by_cases hs : shorter.former = .binary .equivalent
  · obtain ⟨p, q, rfl⟩ := exists_of_former_eq_binary hs
    cases longer with
    | binary op l r =>
      cases l with
      | binary op' a b =>
        cases r with
        | binary op'' c d =>
          simp only [Bool.and_assoc]
          cases op <;> cases op' <;> cases op'' <;> first
            | rfl
            | exact and_eq rfl (and_eq rfl (and_eq rfl rfl))
            | exact and_eq rfl (and_eq rfl (and_eq (negates_eq c p) (negates_eq d q)))
        | _ => cases op <;> cases op' <;> rfl
      | _ => cases op <;> rfl
    | _ => rfl
  · dsimp only
    rw [if_pos hs]
    split
    · next heq =>
      cases heq
      exact absurd rfl hs
    · next heq =>
      cases heq
      exact absurd rfl hs
    · rfl

/-- Exportation in both directions, step by step. -/
theorem exports_eq : exports t s = .ok (Rule.exports t s) :=
  or_eq rfl rfl

/-- Repetition in both directions, step by step. -/
theorem isTautologous_eq : isTautologous t s = .ok (Rule.isTautologous t s) :=
  or_eq rfl rfl

/-! ## Quantifiers -/

/-- The comparison of a text with a scope, step by step: the position is that of a character that
occurs. -/
theorem isInstance_eq (scope : List Char) (v : Char) (result : List Char) :
    isInstance scope v result = .ok (Rule.isInstance scope v result) := by
  unfold isInstance Rule.isInstance
  cases scope.findIdx? (· == v) with
  | none => rfl
  | some i =>
    by_cases hi : result.length ≤ i
    · simp only [if_pos hi, List.getElem?_eq_none hi]
      rfl
    · simp only [if_neg hi, Text.charAt, List.getElem?_eq_getElem (Nat.lt_of_not_le hi)]
      rfl

/-- Generalization from an instance, step by step. -/
theorem generalizes_eq : generalizes t s = .ok (Rule.generalizes t s) := by
  cases t with
  | quantified q v f =>
    cases q with
    | existential =>
      show (if (s.chars .tight).contains v.char = true then pure false
        else isInstance (f.chars .tight) v.char (s.chars .tight)) = _
      rw [isInstance_eq, Rule.generalizes]
      cases (s.chars .tight).contains v.char <;> rfl
    | universal => rfl
  | _ => rfl

/-- Instantiation from the first cited line, step by step. -/
theorem instantiation_eq (target : Formula) (source : Source) (others : List Source) :
    instantiation target (source :: others) =
      .ok (Rule.allowsInstantiation target source.proposition) := by
  rcases source with ⟨f, rule⟩
  cases f with
  | quantified q v f =>
    cases q with
    | existential => rfl
    | universal => exact isInstance_eq _ _ _
  | _ => rfl

/-- What forms the formulas that a block begins. -/
def formers (block : Block) : List (Former × Letter) :=
  block.map fun entry => (.quantified entry.1, entry.2)

/-- Blocks with the same formers are the same. -/
theorem formers_injective : Function.Injective formers := by
  refine List.map_injective_iff.2 ?_
  rintro ⟨q, v⟩ ⟨q', v'⟩ h
  cases h
  rfl

/-- Taking quantifiers off one after the other gives the block and the matrix. -/
theorem splitBlock_eq : splitBlock f = .ok (formers f.block, f.matrix) := by
  induction f with
  | quantified q v f ih =>
    rw [splitBlock, ih]
    rfl
  | _ => rfl

/-- Putting quantifiers in front one after the other does not fail, as each is asked for a
quantifier. -/
theorem formBlock_eq (block : Block) (body : Formula) :
    formBlock (formers block) body = .ok (Formula.quantify block body) := by
  induction block with
  | nil => rfl
  | cons entry block ih =>
    have hstep : formBlock (formers (entry :: block)) body =
        formBlock (formers block) body >>= Former.bind (.quantified entry.1) entry.2 :=
      List.foldrM_cons
    rw [hstep, ih]
    rfl

/-- Every quantifier of a block has a dual. -/
theorem flipBlock_eq (block : Block) : flipBlock (formers block) = .ok (formers block.dual) := by
  induction block with
  | nil => rfl
  | cons entry block ih =>
    have hstep : flipBlock (formers (entry :: block)) = do
        let flipped ← flipBlock (formers block)
        return ((.quantified entry.1.dual, entry.2) :: flipped) := List.mapM_cons
    rw [hstep, ih]
    rfl

/-- The search tries no number of quantifiers that the block does not have. -/
theorem searchBlocks_eq (ks : List Nat) :
    searchBlocks (formers f.block) (formers g.block) f.matrix g.matrix ks =
      .ok (f.agreesAlong g ks) := by
  induction ks with
  | nil => rfl
  | cons k ks ih =>
    have htake : ∀ block : Block, (formers block).take k = formers (block.take k) := fun _ =>
      List.map_take.symm
    have hdrop : ∀ block : Block, (formers block).drop k = formers (block.drop k) := fun _ =>
      List.map_drop.symm
    rw [searchBlocks, htake, htake, hdrop, hdrop, flipBlock_eq, formBlock_eq, formBlock_eq,
      Formula.agreesAlong]
    show (if formers (Block.dual (f.block.take k)) ≠ formers (g.block.take k) then pure false
      else negates (f.under k) (g.under k) <||>
        searchBlocks (formers f.block) (formers g.block) f.matrix g.matrix ks) = _
    by_cases hdual : f.DualUpTo g k
    · have hformers := congrArg formers hdual
      rw [if_pos hdual, if_neg (not_not.2 hformers)]
      exact or_eq (negates_eq _ _) ih
    · have hformers := formers_injective.ne hdual
      rw [if_neg hdual, if_pos hformers]
      rfl

/-- A negation in front of quantifiers that moves through them, step by step. -/
theorem movesThroughBlock_quantified_eq {f g : Formula} (hf : f.former.isQuantifier = true)
    (hg : g.former.isQuantifier = true) :
    movesThroughBlock (.not f) g = .ok (Rule.movesThroughBlock (.not f) g) := by
  have hguard : movesThroughBlock (.not f) g =
      splitBlock f >>= fun x => splitBlock g >>= fun y =>
        searchBlocks x.1 y.1 x.2 y.2 (List.range' 1 (min x.1.length y.1.length)) := by
    show (if !(f.former.isQuantifier && g.former.isQuantifier) then pure false else _) = _
    rw [hf, hg]
    rfl
  have hlength : ∀ block : Block, (formers block).length = block.length := fun _ =>
    List.length_map _
  rw [hguard, splitBlock_eq, splitBlock_eq]
  show searchBlocks (formers f.block) (formers g.block) f.matrix g.matrix
    (List.range' 1 (min (formers f.block).length (formers g.block).length)) = _
  rw [searchBlocks_eq, hlength, hlength, ← Rule.dualBlocks_eq_agreesAlong]
  rfl

/-- The same for formulas of any form: without a negation and quantifiers nothing is asked for. -/
theorem movesThroughBlock_eq : movesThroughBlock t s = .ok (Rule.movesThroughBlock t s) := by
  cases t with
  | not f =>
    cases f with
    | quantified q v f =>
      cases s with
      | quantified q' v' g => exact movesThroughBlock_quantified_eq rfl rfl
      | _ => rfl
    | _ => rfl
  | _ => rfl

/-- Moving a negation through quantifiers in both directions, step by step. -/
theorem negatesQuantifier_eq : negatesQuantifier t s = .ok (Rule.negatesQuantifier t s) := by
  cases t with
  | not f =>
    cases f with
    | quantified q v f => exact movesThroughBlock_eq (.not (.quantified q v f)) s
    | _ => exact movesThroughBlock_eq s _
  | _ => exact movesThroughBlock_eq s _

/-! ## Implication -/

section

variable (a b : Source) (others : List Source)

/-- Addition from the first cited line, step by step. -/
theorem addition_eq : addition t (a :: others) = .ok (Rule.allowsAddition t a.proposition) := by
  cases t with
  | binary op l r => cases op <;> rfl
  | _ => rfl

/-- Conjunction of the first two cited lines, step by step. -/
theorem conjunction_eq : conjunction t (a :: b :: others) =
    .ok (Rule.allowsConjunction t a.proposition b.proposition) := by
  cases t with
  | binary op l r => cases op <;> rfl
  | _ => rfl

/-- Simplification of the first cited line, step by step. -/
theorem simplification_eq :
    simplification t (a :: others) = .ok (Rule.allowsSimplification t a.proposition) := by
  rcases a with ⟨f, rule⟩
  cases f with
  | binary op l r => cases op <;> rfl
  | _ => rfl

/-- Of the first two cited lines the longer one comes first. -/
theorem longerOfTwo_eq :
    longerOfTwo (a :: b :: others) = .ok (longerFirst a.proposition b.proposition) := rfl

/-- Modus ponens, step by step. -/
theorem modusPonens_eq : modusPonens t (a :: b :: others) =
    .ok (Rule.allowsModusPonens t a.proposition b.proposition) := by
  rw [modusPonens, longerOfTwo_eq, Rule.allowsModusPonens]
  rcases longerFirst a.proposition b.proposition with ⟨longer, shorter⟩
  cases longer with
  | binary op l r => cases op <;> rfl
  | _ => rfl

/-- Modus tollens, step by step. -/
theorem modusTollens_eq : modusTollens t (a :: b :: others) =
    .ok (Rule.allowsModusTollens t a.proposition b.proposition) := by
  rw [modusTollens, longerOfTwo_eq, Rule.allowsModusTollens]
  rcases longerFirst a.proposition b.proposition with ⟨longer, shorter⟩
  cases longer with
  | binary op l r => cases op <;> first | rfl | exact and_eq (negates_eq r _) (negates_eq l t)
  | _ => rfl

/-- Two conditionals that make a chain, step by step. -/
theorem chains_eq : chains t f g = .ok (Rule.chains t f g) := by
  cases f with
  | binary op p q =>
    cases g with
    | binary op' q' r =>
      cases t with
      | binary op'' l m =>
        cases op <;> cases op' <;> cases op'' <;> first
          | rfl
          | (rw [chains, Rule.chains, Bool.and_assoc]
             exact and_eq rfl (and_eq rfl rfl))
      | _ => cases op <;> cases op' <;> rfl
    | _ => cases op <;> rfl
  | _ => rfl

/-- Hypothetical syllogism, step by step. -/
theorem hypotheticalSyllogism_eq : hypotheticalSyllogism t (a :: b :: others) =
    .ok (Rule.allowsHypotheticalSyllogism t a.proposition b.proposition) :=
  or_eq (chains_eq t _ _) (chains_eq t _ _)

/-- Constructive dilemma, step by step. -/
theorem constructiveDilemma_eq : constructiveDilemma t (a :: b :: others) =
    .ok (Rule.allowsConstructiveDilemma t a.proposition b.proposition) := by
  rw [constructiveDilemma, longerOfTwo_eq]
  unfold Rule.allowsConstructiveDilemma
  rcases longerFirst a.proposition b.proposition with ⟨both, either⟩
  -- Each form is asked for only where those before it are found.
  cases both with
  | binary op c d =>
    cases c with
    | binary opc p q =>
      cases d with
      | binary opd r s =>
        cases op <;> cases opc <;> cases opd <;> try rfl
        cases either with
        | binary ope l m =>
          cases t with
          | binary opt x y => cases ope <;> cases opt <;> first | rfl | exact and_eq rfl rfl
          | _ => cases ope <;> rfl
        | _ => rfl
      | _ => cases op <;> cases opc <;> rfl
    | _ => cases op <;> rfl
  | _ => rfl

/-- Disjunctive syllogism, step by step. -/
theorem disjunctiveSyllogism_eq : disjunctiveSyllogism t (a :: b :: others) =
    .ok (Rule.allowsDisjunctiveSyllogism t a.proposition b.proposition) := by
  rw [disjunctiveSyllogism, longerOfTwo_eq, Rule.allowsDisjunctiveSyllogism]
  rcases longerFirst a.proposition b.proposition with ⟨longer, other⟩
  cases longer with
  | binary op l r =>
    cases op <;> first
      | rfl
      | exact or_eq (and_eq (negates_eq l other) rfl) (and_eq (negates_eq r other) rfl)
  | _ => rfl

/-! ## Discharge -/

/-- A search with a test that never fails is the search with the answers of the test. -/
theorem anyM_eq {α : Type} {p : α → Except RuleFault Bool} {q : α → Bool}
    (h : ∀ x, p x = .ok (q x)) (xs : List α) : xs.anyM p = .ok (xs.any q) := by
  induction xs with
  | nil => rfl
  | cons x xs ih =>
    rw [List.anyM, h x, List.any_cons, ih]
    cases q x <;> rfl

/-- Conditional proof, step by step. -/
theorem conditionalProof_eq :
    conditionalProof t [a, b] = .ok (Rule.allowsConditionalProof t a b) := by
  refine anyM_eq ?_ _
  rintro ⟨p, q⟩
  cases t with
  | binary op l r => cases op <;> rfl
  | _ => rfl

/-- Indirect proof, step by step. -/
theorem indirectProof_eq : indirectProof t [a, b] = .ok (Rule.allowsIndirectProof t a b) := by
  refine anyM_eq ?_ _
  rintro ⟨p, q⟩
  refine and_eq (negates_eq t p) ?_
  cases q with
  | binary op l r => cases op <;> first | rfl | exact negates_eq l r
  | _ => rfl

end

/-! ## Inside formulas -/

section

variable {R : SimpleProcedure} {R' : SimpleRule}

/-- Without room no call fits. -/
theorem fits_zero (level : Nat) : fits 0 R' level t s = false := by
  unfold fits visits
  simp

/-- There is room for the calls that are listed if there is room for the parts behind the first one.
-/
theorem fits_succ (room level : Nat) : fits (room + 1) R' level t s = (R' t s ||
    match t, s with
    | .not f, .not g => fits room R' (level + 1) f g
    | .quantified q v f, .quantified q' v' g =>
      !decide (q = q' ∧ v = v') || fits room R' (level + 1) f g
    | .binary op tl tr, .binary op' sl sr =>
      !decide (op = op') ||
        (!tl.same sl || fits room R' (level + 1) tr sr) &&
          (tl.same sl && NaturalDeduction.lift R' tr sr ||
            (!tr.same sr || fits room R' (level + 1) tl sl))
    | _, _ => true) := by
  have hroom : level + (room + 1) = level + 1 + room := by omega
  have hhead : decide (level < level + 1 + room) = true := decide_eq_true (by omega)
  unfold fits
  conv_lhs => unfold visits
  rw [hroom, List.all_cons, hhead, Bool.true_and]
  cases R' t s with
  | true => rfl
  | false =>
    cases t with
    | not f => cases s <;> rfl
    | quantified q v f =>
      cases s with
      | quantified q' v' g =>
        by_cases heq : q = q' ∧ v = v'
        · simp [heq]
        · simp [heq]
      | _ => rfl
    | binary op tl tr =>
      cases s with
      | binary op' sl sr =>
        by_cases hop : op = op'
        · simp only [hop]
          cases tl.same sl <;> cases NaturalDeduction.lift R' tr sr <;> cases tr.same sr <;>
            simp
        · simp [hop]
      | _ => rfl
    | _ => cases s <;> rfl

/-- Quantified formulas have the same operator if quantifier and variable are the same. -/
theorem operator_quantified_iff {q q' : Quantifier} {v v' : Letter} {f g : Formula} :
    (Formula.quantified q v f).operator = (Formula.quantified q' v' g).operator ↔
      q = q' ∧ v = v' := by
  rcases v with ⟨c, hc⟩
  rcases v' with ⟨c', hc'⟩
  cases q <;> cases q' <;> simp [Formula.operator, Quantifier.symbol]

/-- Joined formulas have the same operator if the connective is the same. -/
theorem operator_binary_iff {op op' : Connective} {l r l' r' : Formula} :
    (Formula.binary op l r).operator = (Formula.binary op' l' r').operator ↔ op = op' := by
  cases op <;> cases op' <;> simp [Formula.operator, Connective.symbol]

/-- An answer, if there is room for the check. -/
def withRoom (hasRoom answer : Bool) : Except RuleFault Bool :=
  if hasRoom then .ok answer else .error .exhausted

/-- The second part is checked only if the first one holds. -/
theorem and_withRoom (a hasRoom b : Bool) :
    (Except.ok a <&&> withRoom hasRoom b) = withRoom (!a || hasRoom) (a && b) := by
  cases a <;> cases hasRoom <;> rfl

/-- The second part is checked only if the first one does not hold. -/
theorem or_withRoom (hasRoom a hasRoom' b : Bool) :
    (withRoom hasRoom a <||> withRoom hasRoom' b) =
      withRoom (hasRoom && (a || hasRoom')) (a || b) := by
  cases hasRoom <;> cases a <;> cases hasRoom' <;> rfl

/-- There is an answer only if there is room for it. -/
theorem withRoom_eq_ok_iff {hasRoom answer b : Bool} :
    withRoom hasRoom answer = .ok b ↔ hasRoom = true ∧ answer = b := by
  cases hasRoom with
  | true => simp [withRoom]
  | false => simp [withRoom]

/-- **Inside formulas** a rule answers what it allows there, if there is room for all calls that
this takes, and otherwise it fails for want of room. -/
theorem lift_eq (hR : ∀ t s, R t s = .ok (R' t s)) (room level : Nat) (t s : Formula) :
    lift R room t s = withRoom (fits room R' level t s) (NaturalDeduction.lift R' t s) := by
  induction room generalizing level t s with
  | zero =>
    rw [fits_zero]
    rfl
  | succ room ih =>
    unfold lift NaturalDeduction.lift
    rw [hR, fits_succ]
    cases R' t s with
    | true => rfl
    | false =>
      cases t with
      | not f =>
        cases s with
        | not g => exact ih (level + 1) f g
        | _ => rfl
      | quantified q v f =>
        cases s with
        | quantified q' v' g =>
          show (Except.ok false <||> if _ then lift R room f g else return false) =
            withRoom (!decide (q = q' ∧ v = v') || fits room R' (level + 1) f g)
              (decide (q = q') && decide (v = v') && NaturalDeduction.lift R' f g)
          rw [← Bool.decide_and]
          by_cases heq : q = q' ∧ v = v'
          · rw [if_pos (operator_quantified_iff.2 heq), decide_eq_true heq]
            exact ih (level + 1) f g
          · rw [if_neg (mt operator_quantified_iff.1 heq), decide_eq_false heq]
            rfl
        | _ => rfl
      | binary op tl tr =>
        cases s with
        | binary op' sl sr =>
          show (Except.ok false <||> if _ then
              (Except.ok (tl.same sl) <&&> lift R room tr sr) <||>
                (Except.ok (tr.same sr) <&&> lift R room tl sl) else return false) =
            withRoom (!decide (op = op') || _) (decide (op = op') && _)
          by_cases heq : op = op'
          · rw [if_pos (operator_binary_iff.2 heq), decide_eq_true heq, ih (level + 1) tr sr,
              ih (level + 1) tl sl, and_withRoom, and_withRoom, or_withRoom]
            rfl
          · rw [if_neg (mt operator_binary_iff.1 heq), decide_eq_false heq]
            rfl
        | _ => rfl
      | _ => rfl

/-- What fits into a room fits into a larger one. -/
theorem fits_mono {room room' : Nat} (hroom : room ≤ room') {level : Nat} {t s : Formula}
    (h : fits room R' level t s = true) : fits room' R' level t s = true := by
  unfold fits at *
  rw [List.all_eq_true] at *
  intro v hv
  have hlevel := of_decide_eq_true (h v hv)
  exact decide_eq_true (by omega)

/-- No more calls are open at once than operators are nested in the source, and one. -/
theorem fits_of_depth_lt {room level : Nat} {t s : Formula} (h : s.depth < room) :
    fits room R' level t s = true := by
  induction room generalizing level t s with
  | zero => exact absurd h (Nat.not_lt_zero _)
  | succ room ih =>
    rw [fits_succ, Bool.or_eq_true]
    refine .inr ?_
    cases s with
    | not g =>
      rw [Formula.depth] at h
      cases t with
      | not f => exact ih (by omega)
      | _ => rfl
    | quantified q' v' g =>
      rw [Formula.depth] at h
      cases t with
      | quantified q v f =>
        dsimp only
        rw [ih (by omega), Bool.or_true]
      | _ => rfl
    | binary op' sl sr =>
      rw [Formula.depth] at h
      cases t with
      | binary op tl tr =>
        dsimp only
        rw [ih (s := sl) (by omega), ih (s := sr) (by omega)]
        simp
      | _ => rfl
    | _ => cases t <;> rfl

end

end Procedure

/-! ## All rules -/

namespace Rule

open Procedure

/-- What a rule allows that looks at one whole line. -/
def fromLine? : Rule → Option (Formula → Formula → Bool)
  | addition => some allowsAddition
  | simplification => some allowsSimplification
  | universalInstantiation => some allowsInstantiation
  | _ => none

/-- What a rule allows that looks at two whole lines. -/
def fromLines? : Rule → Option (Formula → Formula → Formula → Bool)
  | conjunction => some allowsConjunction
  | constructiveDilemma => some allowsConstructiveDilemma
  | disjunctiveSyllogism => some allowsDisjunctiveSyllogism
  | hypotheticalSyllogism => some allowsHypotheticalSyllogism
  | modusPonens => some allowsModusPonens
  | modusTollens => some allowsModusTollens
  | _ => none

/-- What a rule allows that discharges one of two lines. -/
def fromDischarge? : Rule → Option (Formula → Source → Source → Bool)
  | conditionalProof => some allowsConditionalProof
  | indirectProof => some allowsIndirectProof
  | _ => none

/-- How a rule is checked. -/
theorem check_kinds (rule : Rule) :
    rule.citedCount = 0 ∨ (∃ R, rule.simple? = some R ∧ rule.citedCount = 1) ∨
      (∃ allows, rule.fromLine? = some allows ∧ rule.citedCount = 1) ∨
      (∃ allows, rule.fromLines? = some allows ∧ rule.citedCount = 2) ∨
      ∃ allows, rule.fromDischarge? = some allows ∧ rule.citedCount = 2 := by
  cases rule <;> simp [citedCount, simple?, fromLine?, fromLines?, fromDischarge?]

variable {rule : Rule} {target : Formula} {sources : List Source}

/-- A rule that applies inside formulas is put to the target and the first line. -/
theorem check_of_simple? {R : SimpleRule} (hR : rule.simple? = some R) (room : Nat)
    (target : Formula) (a : Source) (others : List Source) :
    rule.check room target (a :: others) =
      withRoom (fits room R 0 target a.proposition)
        (NaturalDeduction.lift R target a.proposition) := by
  cases rule with
  | associativity => cases hR; exact lift_eq associates_eq room 0 target _
  | commutativity => cases hR; exact lift_eq commutes_eq room 0 target _
  | deMorgans => cases hR; exact lift_eq deMorgan_eq room 0 target _
  | distribution => cases hR; exact lift_eq distributes_eq room 0 target _
  | doubleNegation => cases hR; exact lift_eq doublyNegates_eq room 0 target _
  | existentialGeneralization => cases hR; exact lift_eq generalizes_eq room 0 target _
  | exportation => cases hR; exact lift_eq exports_eq room 0 target _
  | materialEquivalence => cases hR; exact lift_eq equalsMaterially_eq room 0 target _
  | materialImplication => cases hR; exact lift_eq impliesMaterially_eq room 0 target _
  | quantifierNegation => cases hR; exact lift_eq negatesQuantifier_eq room 0 target _
  | tautology => cases hR; exact lift_eq isTautologous_eq room 0 target _
  | transposition => cases hR; exact lift_eq transposes_eq room 0 target _
  | _ => cases hR

/-- A rule that looks at one line allows what its predicate says. -/
theorem check_of_fromLine? {allows : Formula → Formula → Bool} (h : rule.fromLine? = some allows)
    (room : Nat) (target : Formula) (a : Source) (others : List Source) :
    rule.check room target (a :: others) = .ok (allows target a.proposition) := by
  cases rule with
  | addition => cases h; exact addition_eq target a others
  | simplification => cases h; exact simplification_eq target a others
  | universalInstantiation => cases h; exact instantiation_eq target a others
  | _ => cases h

/-- A rule that looks at two lines allows what its predicate says. -/
theorem check_of_fromLines? {allows : Formula → Formula → Formula → Bool}
    (h : rule.fromLines? = some allows) (room : Nat) (target : Formula) (a b : Source)
    (others : List Source) :
    rule.check room target (a :: b :: others) =
      .ok (allows target a.proposition b.proposition) := by
  cases rule with
  | conjunction => cases h; exact conjunction_eq target a b others
  | constructiveDilemma => cases h; exact constructiveDilemma_eq target a b others
  | disjunctiveSyllogism => cases h; exact disjunctiveSyllogism_eq target a b others
  | hypotheticalSyllogism => cases h; exact hypotheticalSyllogism_eq target a b others
  | modusPonens => cases h; exact modusPonens_eq target a b others
  | modusTollens => cases h; exact modusTollens_eq target a b others
  | _ => cases h

/-- A rule that discharges an assumption allows what its predicate says of exactly two lines. -/
theorem check_of_fromDischarge? {allows : Formula → Source → Source → Bool}
    (h : rule.fromDischarge? = some allows) (room : Nat) (target : Formula) (a b : Source) :
    rule.check room target [a, b] = .ok (allows target a b) := by
  cases rule with
  | conditionalProof => cases h; exact conditionalProof_eq target a b
  | indirectProof => cases h; exact indirectProof_eq target a b
  | _ => cases h

/-- How a check ends: with an answer that does not depend on the room, wherever there is room
enough. -/
structure Answers (rule : Rule) (target : Formula) (sources : List Source) (hasRoom : Nat → Bool)
    (answer : Bool) : Prop where
  /-- The outcome. -/
  check_eq : ∀ room, rule.check room target sources = withRoom (hasRoom room) answer
  /-- What is enough is enough with more room. -/
  mono : ∀ {room room'}, room ≤ room' → hasRoom room = true → hasRoom room' = true
  /-- Room for one call more than operators are nested in the lines is enough. -/
  enough : ∀ {room}, (∀ a ∈ sources, a.proposition.depth < room) → hasRoom room = true

/-- A check that does not need room. -/
theorem answers_of_check {answer : Bool} (h : ∀ room, rule.check room target sources = .ok answer) :
    Answers rule target sources (fun _ => true) answer :=
  ⟨h, fun _ h => h, fun _ => rfl⟩

/-- **Every rule gives an answer** if it gets as many lines as it wants, whatever they say, and
there is room enough. -/
theorem exists_answers (target : Formula) (hcount : sources.length = rule.citedCount) :
    ∃ hasRoom answer, Answers rule target sources hasRoom answer := by
  rcases rule.check_kinds with hzero | ⟨R, hR, hone⟩ | ⟨allows, hallows, hone⟩ |
    ⟨allows, hallows, htwo⟩ | ⟨allows, hallows, htwo⟩
  · cases rule with
    | premise => exact ⟨_, true, answers_of_check fun _ => rfl⟩
    | assumption => exact ⟨_, true, answers_of_check fun _ => rfl⟩
    | _ => cases hzero
  · obtain ⟨a, rfl⟩ := List.length_eq_one_iff.1 (hcount.trans hone)
    exact ⟨fun room => fits room R 0 target a.proposition, _, fun room =>
      check_of_simple? hR room target a [], fun hroom h => fits_mono hroom h, fun hroom =>
      fits_of_depth_lt (hroom a List.mem_cons_self)⟩
  · obtain ⟨a, rfl⟩ := List.length_eq_one_iff.1 (hcount.trans hone)
    exact ⟨_, _, answers_of_check fun room => check_of_fromLine? hallows room target a []⟩
  · obtain ⟨a, b, rfl⟩ := List.length_eq_two.1 (hcount.trans htwo)
    exact ⟨_, _, answers_of_check fun room => check_of_fromLines? hallows room target a b []⟩
  · obtain ⟨a, b, rfl⟩ := List.length_eq_two.1 (hcount.trans htwo)
    exact ⟨_, _, answers_of_check fun room => check_of_fromDischarge? hallows room target a b⟩

end Rule

end NaturalDeduction
