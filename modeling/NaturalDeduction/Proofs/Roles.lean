import NaturalDeduction.Proofs.Discharge
import NaturalDeduction.Proofs.Sameness

/-!
# Which of two lines is the compound one

Four rules lead from a compound formula and another one to a target, whatever the order in which the
two are cited. They do not try both orders: they take the longer formula for the compound one, and
the second one if both have the same length. Nothing is lost by this
(`Rule.check_pair_iff_matches`). The declared form of each of the four rules (`Rule.Matches`) makes
the compound formula longer than the other one (`Rule.canonicalLength_lt_of_matches`), also where
the other one has parentheses and a sign of negation that its part of the compound formula has not.
So the form can hold in one order only, and that order is the one which is tried
(`longerFirst_iff`); formulas of the same length do not match in any order.

The other rules that cite two lines try both orders themselves, so that no rule at all minds the
order of two cited lines (`Rule.exists_check_swap`).
-/

namespace NaturalDeduction

/-- **Ordering two formulas by length loses nothing** for a relation that puts the longer one
first. -/
theorem longerFirst_iff {P : Formula → Formula → Prop}
    (hP : ∀ {f g : Formula}, P f g → g.canonicalLength < f.canonicalLength) (f g : Formula) :
    P (longerFirst f g).1 (longerFirst f g).2 ↔ P f g ∨ P g f := by
  unfold longerFirst
  split
  · next hlt =>
    refine ⟨Or.inl, ?_⟩
    rintro (h | h)
    · exact h
    · have hgt := hP h
      omega
  · next hle =>
    refine ⟨Or.inr, ?_⟩
    rintro (h | h)
    · have hlt := hP h
      omega
    · exact h

/-- Two formulas are the same two in either order. -/
theorem samePair_swap (a b x y : Formula) : samePair a b x y = samePair a b y x := by
  unfold samePair
  rw [Bool.or_comm]

/-- Two formulas that are two others, in some order, are as long together. -/
theorem operandLength_of_samePair {a b x y : Formula} (h : samePair a b x y = true) :
    a.operandLength + b.operandLength = x.operandLength + y.operandLength := by
  unfold samePair at h
  simp only [Bool.or_eq_true, Bool.and_eq_true] at h
  rcases h with ⟨hax, hby⟩ | ⟨hay, hbx⟩
  · rw [Formula.operandLength_of_same hax, Formula.operandLength_of_same hby]
  · rw [Formula.operandLength_of_same hay, Formula.operandLength_of_same hbx, Nat.add_comm]

namespace Rule

/-! ## Declared forms -/

/-- The rules that cite a compound formula and another one. -/
def compounds : List Rule :=
  [.modusPonens, .modusTollens, .constructiveDilemma, .disjunctiveSyllogism]

/-- The declared form of a rule that cites a compound formula and another one, for these two
formulas and the target. -/
def Matches (rule : Rule) (compound other target : Formula) : Prop :=
  match rule with
  | modusPonens =>
    ∃ l r, compound = .binary .implies l r ∧ other.same l = true ∧ target.same r = true
  | modusTollens =>
    ∃ l r, compound = .binary .implies l r ∧ other.isNegation r = true ∧ target.isNegation l = true
  | constructiveDilemma =>
    ∃ p q r s x y u v,
      compound = .binary .and (.binary .implies p q) (.binary .implies r s) ∧
        other = .binary .or x y ∧ samePair p r x y = true ∧
        target = .binary .or u v ∧ samePair q s u v = true
  | disjunctiveSyllogism =>
    ∃ l r, compound = .binary .or l r ∧
      ((other.isNegation l = true ∧ target.same r = true) ∨
        (other.isNegation r = true ∧ target.same l = true))
  | _ => False

/-- **The compound formula is the longer one** wherever a rule matches. -/
theorem canonicalLength_lt_of_matches {rule : Rule} {c o z : Formula} (h : rule.Matches c o z) :
    o.canonicalLength < c.canonicalLength := by
  cases rule with
  | modusPonens =>
    obtain ⟨l, r, rfl, ho, -⟩ := h
    have hle := l.canonicalLength_le_operandLength
    have hpos := r.operandLength_pos
    rw [Formula.canonicalLength_of_same ho, Formula.canonicalLength_binary]
    omega
  | modusTollens =>
    obtain ⟨l, r, rfl, ho, -⟩ := h
    -- the arrow outweighs the sign of negation; parentheses of the consequent are on both sides
    have hsign : (Connective.implies.symbol).length = 2 := rfl
    have hle := Formula.canonicalLength_le_of_isNegation ho
    rw [Formula.canonicalLength_binary]
    omega
  | constructiveDilemma =>
    obtain ⟨p, q, r, s, x, y, u, v, rfl, rfl, hpair, -, -⟩ := h
    have hsign : (Connective.or.symbol).length = 1 := rfl
    have hsum := operandLength_of_samePair hpair
    simp only [Formula.canonicalLength_binary, Formula.operandLength_binary]
    omega
  | disjunctiveSyllogism =>
    obtain ⟨l, r, rfl, hnegates⟩ := h
    -- here the sign of negation weighs as much as the connective; the other disjunct decides
    have hsign : (Connective.or.symbol).length = 1 := rfl
    have hl := l.operandLength_pos
    have hr := r.operandLength_pos
    rw [Formula.canonicalLength_binary]
    rcases hnegates with ⟨ho, -⟩ | ⟨ho, -⟩
    · have hle := Formula.canonicalLength_le_of_isNegation ho
      omega
    · have hle := Formula.canonicalLength_le_of_isNegation ho
      omega
  | _ => exact h.elim

/-! ## What the rules check -/

section

variable {z a b : Formula}

/-- Modus ponens checks its schema, with the longer line as the conditional. -/
theorem allowsModusPonens_iff :
    allowsModusPonens z a b = true ↔
      modusPonens.Matches (longerFirst a b).1 (longerFirst a b).2 z := by
  unfold allowsModusPonens
  rcases longerFirst a b with ⟨c, o⟩
  constructor
  · intro h
    split at h
    · next l r o heq =>
      obtain ⟨rfl, rfl⟩ := Prod.mk.inj heq
      rw [Bool.and_eq_true] at h
      exact ⟨l, r, rfl, Formula.same_symm h.1, Formula.same_symm h.2⟩
    · cases h
  · rintro ⟨l, r, rfl, ho, hz⟩
    simp [Formula.same_symm ho, Formula.same_symm hz]

/-- Modus tollens checks its schema, with the longer line as the conditional. -/
theorem allowsModusTollens_iff :
    allowsModusTollens z a b = true ↔
      modusTollens.Matches (longerFirst a b).1 (longerFirst a b).2 z := by
  unfold allowsModusTollens
  rcases longerFirst a b with ⟨c, o⟩
  constructor
  · intro h
    split at h
    · next l r o heq =>
      obtain ⟨rfl, rfl⟩ := Prod.mk.inj heq
      rw [Bool.and_eq_true, Formula.isNegation_comm r, Formula.isNegation_comm l] at h
      exact ⟨l, r, rfl, h.1, h.2⟩
    · cases h
  · rintro ⟨l, r, rfl, ho, hz⟩
    simp [Formula.isNegation_comm r, ho, Formula.isNegation_comm l, hz]

/-- Constructive dilemma checks its schema, with the longer line as the conjunction. -/
theorem allowsConstructiveDilemma_iff :
    allowsConstructiveDilemma z a b = true ↔
      constructiveDilemma.Matches (longerFirst a b).1 (longerFirst a b).2 z := by
  unfold allowsConstructiveDilemma
  rcases longerFirst a b with ⟨c, o⟩
  constructor
  · intro h
    split at h
    · next p q r s x y u v heq =>
      obtain ⟨rfl, rfl⟩ := Prod.mk.inj heq
      rw [Bool.and_eq_true] at h
      exact ⟨p, q, r, s, x, y, u, v, rfl, rfl, h.1, rfl, h.2⟩
    · cases h
  · rintro ⟨p, q, r, s, x, y, u, v, rfl, rfl, ho, rfl, hz⟩
    simp [ho, hz]

/-- Disjunctive syllogism checks its schema, with the longer line as the disjunction. -/
theorem allowsDisjunctiveSyllogism_iff :
    allowsDisjunctiveSyllogism z a b = true ↔
      disjunctiveSyllogism.Matches (longerFirst a b).1 (longerFirst a b).2 z := by
  unfold allowsDisjunctiveSyllogism
  rcases longerFirst a b with ⟨c, o⟩
  constructor
  · intro h
    split at h
    · next l r o heq =>
      obtain ⟨rfl, rfl⟩ := Prod.mk.inj heq
      simp only [Bool.or_eq_true, Bool.and_eq_true] at h
      rw [Formula.isNegation_comm l, Formula.isNegation_comm r, Formula.same_comm l,
        Formula.same_comm r] at h
      exact ⟨l, r, rfl, h⟩
    · cases h
  · rintro ⟨l, r, rfl, h⟩
    rw [Formula.isNegation_comm _ l, Formula.isNegation_comm _ r, Formula.same_comm _ l,
      Formula.same_comm _ r] at h
    simpa only [Bool.or_eq_true, Bool.and_eq_true] using h

end

/-- What is checked is the declared form, for the longer of the two formulas as the compound one. -/
theorem exists_check_of_mem_compounds {rule : Rule} (hrule : rule ∈ compounds) (room : Nat)
    (z : Formula) (a b : Source) :
    ∃ v, rule.check room z [a, b] = .ok v ∧
      (v = true ↔ rule.Matches (longerFirst a.proposition b.proposition).1
        (longerFirst a.proposition b.proposition).2 z) := by
  simp only [compounds, List.mem_cons, List.not_mem_nil, or_false] at hrule
  rcases hrule with rfl | rfl | rfl | rfl
  · exact ⟨_, Procedure.modusPonens_eq z a b [], allowsModusPonens_iff⟩
  · exact ⟨_, Procedure.modusTollens_eq z a b [], allowsModusTollens_iff⟩
  · exact ⟨_, Procedure.constructiveDilemma_eq z a b [], allowsConstructiveDilemma_iff⟩
  · exact ⟨_, Procedure.disjunctiveSyllogism_eq z a b [], allowsDisjunctiveSyllogism_iff⟩

/-- A rule that goes by length holds exactly if its declared form holds in one of the two orders. -/
theorem exists_check_iff_matches {rule : Rule} (hrule : rule ∈ compounds) (room : Nat) (z : Formula)
    (a b : Source) :
    ∃ v, rule.check room z [a, b] = .ok v ∧
      (v = true ↔ rule.Matches a.proposition b.proposition z ∨
        rule.Matches b.proposition a.proposition z) := by
  obtain ⟨v, hcheck, hv⟩ := exists_check_of_mem_compounds hrule room z a b
  have horder := longerFirst_iff (P := fun c o => rule.Matches c o z)
    canonicalLength_lt_of_matches a.proposition b.proposition
  exact ⟨v, hcheck, hv.trans horder⟩

/-! ## The order of two lines -/

/-- The rules that cite two lines are those that go by length, join the lines, chain them or
discharge one of them. -/
theorem citedCount_eq_two_iff {rule : Rule} :
    rule.citedCount = 2 ↔ rule ∈ compounds ∨ rule = .conjunction ∨ rule = .hypotheticalSyllogism ∨
      rule.discharges = true := by
  cases rule <;> simp [citedCount, compounds, discharges]

/-- The sides of a conjunction may be cited in either order. -/
theorem allowsConjunction_swap (z f g : Formula) :
    allowsConjunction z f g = allowsConjunction z g f := by
  unfold allowsConjunction
  split
  · exact samePair_swap _ _ f g
  · rfl

/-- Of two lines, which one is the assumption does not depend on their order. -/
theorem any_assumptionAndOther_swap (a b : Source) (holds : Formula × Formula → Bool) :
    (assumptionAndOther a b).any holds = (assumptionAndOther b a).any holds := by
  simp only [assumptionAndOther, List.any_append]
  rw [Bool.or_comm]

/-- No rule minds the order of two cited lines. -/
theorem exists_check_swap {rule : Rule} (h : rule.citedCount = 2) (room : Nat) (z : Formula)
    (a b : Source) :
    ∃ v, rule.check room z [a, b] = .ok v ∧ rule.check room z [b, a] = .ok v := by
  rcases citedCount_eq_two_iff.1 h with hrule | rfl | rfl | hrule
  · obtain ⟨v, hcheck, hv⟩ := exists_check_iff_matches hrule room z a b
    obtain ⟨w, hcheck', hw⟩ := exists_check_iff_matches hrule room z b a
    have heq : v = w := by
      rw [Bool.eq_iff_iff, hv, hw, or_comm]
    exact ⟨v, hcheck, heq ▸ hcheck'⟩
  · refine ⟨_, Procedure.conjunction_eq z a b [], ?_⟩
    rw [allowsConjunction_swap]
    exact Procedure.conjunction_eq z b a []
  · refine ⟨_, Procedure.hypotheticalSyllogism_eq z a b [], ?_⟩
    rw [Rule.allowsHypotheticalSyllogism, Bool.or_comm]
    exact Procedure.hypotheticalSyllogism_eq z b a []
  · rw [check_of_discharges hrule, check_of_discharges hrule]
    refine ⟨_, rfl, ?_⟩
    exact congrArg Except.ok (any_assumptionAndOther_swap b a _)

/-- **The order of two cited lines does not matter.** A rule that takes the longer formula for the
compound one holds exactly if its declared form holds for one of the two assignments of roles; and
every rule that cites two lines has the same outcome when they change places. -/
theorem check_pair_iff_matches (room : Nat) :
    (∀ rule ∈ compounds, ∀ (z : Formula) (a b : Source),
      ∃ v, rule.check room z [a, b] = .ok v ∧
        (v = true ↔ rule.Matches a.proposition b.proposition z ∨
          rule.Matches b.proposition a.proposition z)) ∧
      ∀ rule : Rule, rule.citedCount = 2 → ∀ (z : Formula) (a b : Source),
        ∃ v, rule.check room z [a, b] = .ok v ∧ rule.check room z [b, a] = .ok v := by
  constructor
  · intro rule hrule z a b
    exact exists_check_iff_matches hrule room z a b
  · intro rule h z a b
    exact exists_check_swap h room z a b

/-- A conditional whose consequent is the negation of the other line, for which that line has no
sign of negation: found in both orders. And a conditional beside a line of the same length, which is
not its antecedent: not found in any. -/
theorem check_pair_of_negated_consequent :
    let p : Formula := .atom ⟨'p', rfl⟩
    let q : Formula := .atom ⟨'q', rfl⟩
    let both : Formula := .binary .and p q
    let conditional : Source := ⟨.binary .implies p (.not both), .assumption⟩
    let other : Source := ⟨both, .premise⟩
    let short : Source := ⟨.binary .implies p q, .premise⟩
    let equal : Source := ⟨.predicate ⟨'F', rfl⟩ (.ofLetter ⟨'a', rfl⟩) [], .premise⟩
    modusTollens ∈ compounds ∧ modusTollens.citedCount = 2 ∧
      modusTollens.Matches conditional.proposition other.proposition (.not p) ∧
      modusTollens.check 0 (.not p) [other, conditional] = .ok true ∧
      modusTollens.check 0 (.not p) [conditional, other] = .ok true ∧
      short.proposition.canonicalLength = equal.proposition.canonicalLength ∧
      ¬ (modusPonens.Matches short.proposition equal.proposition q ∨
        modusPonens.Matches equal.proposition short.proposition q) := by
  intro p q both conditional other short equal
  obtain ⟨hforms, hswap⟩ := check_pair_iff_matches 0
  have hmatches : modusTollens.Matches conditional.proposition other.proposition (.not p) :=
    ⟨p, .not both, rfl, by decide, by decide⟩
  obtain ⟨v, hcheck, hv⟩ := hforms modusTollens (by decide) (.not p) other conditional
  obtain ⟨w, hw, hw'⟩ := hswap modusTollens rfl (.not p) other conditional
  have htrue : v = true := hv.2 (.inr hmatches)
  subst htrue
  have hsame : w = true := by
    rw [hcheck] at hw
    injection hw with hw
    exact hw.symm
  subst hsame
  refine ⟨by decide, rfl, hmatches, hcheck, hw', rfl, ?_⟩
  obtain ⟨u, hu, hform⟩ := hforms modusPonens (by decide) q short equal
  rw [← hform]
  rintro rfl
  have hfalse : modusPonens.check 0 q [short, equal] = .ok false := rfl
  rw [hfalse] at hu
  injection hu with hu
  cases hu

end Rule

end NaturalDeduction
