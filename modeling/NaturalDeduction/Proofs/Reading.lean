import Mathlib.Tactic.Tauto
import NaturalDeduction.Proofs.Procedures
import NaturalDeduction.Structure

/-!
# Rules keep what is true

A `Reading` calls formulas true or false in such a way that negation and the connectives mean what
they say and formulas with the same written form agree. Nothing is asked about the quantifiers, so
truth under an assignment is a reading as well as truth in a structure under a valuation.

Every rule of implication leads from true formulas to true ones (`Reading.holds_of_allowsAddition`
and its companions), and the two sides of a rule of replacement are true together
(`Reading.iff_of_commutes` and its companions). Lifting keeps this where no quantifier stands above
the place that is changed (`Reading.iff_of_lift`). Together they give `Reading.holds_of_check`: on
formulas without quantifiers no rule, except for the two that discharge assumptions, leads from
truth to falsity.
-/

namespace NaturalDeduction

/-- A way to call formulas true that respects negation, the connectives and written forms. -/
structure Reading where
  /-- Which formulas are true. -/
  Holds : Formula → Prop
  /-- Negation is negation. -/
  not_iff : ∀ f, Holds (.not f) ↔ ¬ Holds f
  /-- Connectives mean what they say. -/
  binary_iff : ∀ op l r, Holds (.binary op l r) ↔ op.Says (Holds l) (Holds r)
  /-- Written forms decide. -/
  same_iff : ∀ {f g : Formula}, f.same g = true → (Holds f ↔ Holds g)

namespace Reading

variable (ρ : Reading)

/-- A conjunction holds if both sides do. -/
theorem and_iff (l r : Formula) : ρ.Holds (.binary .and l r) ↔ ρ.Holds l ∧ ρ.Holds r :=
  ρ.binary_iff .and l r

/-- A disjunction holds if one of the sides does. -/
theorem or_iff (l r : Formula) : ρ.Holds (.binary .or l r) ↔ ρ.Holds l ∨ ρ.Holds r :=
  ρ.binary_iff .or l r

/-- A conditional holds if the left side gives the right side. -/
theorem implies_iff (l r : Formula) :
    ρ.Holds (.binary .implies l r) ↔ (ρ.Holds l → ρ.Holds r) :=
  ρ.binary_iff .implies l r

/-- A biconditional holds if the sides hold together. -/
theorem equivalent_iff (l r : Formula) :
    ρ.Holds (.binary .equivalent l r) ↔ (ρ.Holds l ↔ ρ.Holds r) :=
  ρ.binary_iff .equivalent l r

/-- Of a formula and a negation of it one is true. -/
theorem isNegation_iff {f g : Formula} (h : f.isNegation g = true) :
    ρ.Holds f ↔ ¬ ρ.Holds g := by
  have key : ∀ {f g : Formula}, f.isNegationOf g = true → (ρ.Holds f ↔ ¬ ρ.Holds g) := by
    intro f g h
    cases f with
    | not f => rw [ρ.not_iff, ρ.same_iff h]
    | _ => cases h
  rw [Formula.isNegation, Bool.or_eq_true] at h
  rcases h with h | h
  · rw [key h, not_not]
  · exact key h

/-! ## Rules of implication -/

/-- Two formulas that hold do so in whichever order they are taken. -/
theorem holds_of_longerFirst {f g : Formula} (hf : ρ.Holds f) (hg : ρ.Holds g) :
    ρ.Holds (longerFirst f g).1 ∧ ρ.Holds (longerFirst f g).2 := by
  unfold longerFirst
  split
  · exact ⟨hf, hg⟩
  · exact ⟨hg, hf⟩

/-- Two formulas that are the same pair as two others are true together with them. -/
theorem of_samePair {a b x y : Formula} (h : samePair a b x y = true) :
    ((ρ.Holds a ∧ ρ.Holds b) ↔ (ρ.Holds x ∧ ρ.Holds y)) ∧
      ((ρ.Holds a ∨ ρ.Holds b) ↔ (ρ.Holds x ∨ ρ.Holds y)) := by
  simp only [samePair, Bool.or_eq_true, Bool.and_eq_true] at h
  rcases h with ⟨ha, hb⟩ | ⟨ha, hb⟩
  · rw [ρ.same_iff ha, ρ.same_iff hb]
    exact ⟨Iff.rfl, Iff.rfl⟩
  · rw [ρ.same_iff ha, ρ.same_iff hb]
    exact ⟨and_comm, or_comm⟩

/-- Addition keeps truth. -/
theorem holds_of_allowsAddition {t s : Formula} (h : Rule.allowsAddition t s = true)
    (hs : ρ.Holds s) : ρ.Holds t := by
  unfold Rule.allowsAddition at h
  split at h
  · next l r =>
    rw [Bool.or_eq_true] at h
    rw [ρ.or_iff]
    rcases h with h | h
    · exact .inl ((ρ.same_iff h).1 hs)
    · exact .inr ((ρ.same_iff h).1 hs)
  · cases h

/-- Conjunction keeps truth. -/
theorem holds_of_allowsConjunction {t a b : Formula} (h : Rule.allowsConjunction t a b = true)
    (ha : ρ.Holds a) (hb : ρ.Holds b) : ρ.Holds t := by
  unfold Rule.allowsConjunction at h
  split at h
  · next l r =>
    rw [ρ.and_iff, (ρ.of_samePair h).1]
    exact ⟨ha, hb⟩
  · cases h

/-- Simplification keeps truth. -/
theorem holds_of_allowsSimplification {t s : Formula} (h : Rule.allowsSimplification t s = true)
    (hs : ρ.Holds s) : ρ.Holds t := by
  unfold Rule.allowsSimplification at h
  split at h
  · next l r =>
    rw [Bool.or_eq_true] at h
    rw [ρ.and_iff] at hs
    rcases h with h | h
    · exact (ρ.same_iff h).2 hs.1
    · exact (ρ.same_iff h).2 hs.2
  · cases h

/-- Modus ponens keeps truth. -/
theorem holds_of_allowsModusPonens {t a b : Formula} (h : Rule.allowsModusPonens t a b = true)
    (ha : ρ.Holds a) (hb : ρ.Holds b) : ρ.Holds t := by
  obtain ⟨hlong, hshort⟩ := ρ.holds_of_longerFirst ha hb
  unfold Rule.allowsModusPonens at h
  split at h
  · next l r o heq =>
    rw [heq] at hlong hshort
    rw [Bool.and_eq_true] at h
    obtain ⟨hl, hr⟩ := h
    rw [ρ.implies_iff] at hlong
    exact (ρ.same_iff hr).1 (hlong ((ρ.same_iff hl).2 hshort))
  · cases h

/-- Modus tollens keeps truth. -/
theorem holds_of_allowsModusTollens {t a b : Formula} (h : Rule.allowsModusTollens t a b = true)
    (ha : ρ.Holds a) (hb : ρ.Holds b) : ρ.Holds t := by
  obtain ⟨hlong, hshort⟩ := ρ.holds_of_longerFirst ha hb
  unfold Rule.allowsModusTollens at h
  split at h
  · next l r o heq =>
    rw [heq] at hlong hshort
    rw [Bool.and_eq_true] at h
    have hr := ρ.isNegation_iff h.1
    have hl := ρ.isNegation_iff h.2
    rw [ρ.implies_iff] at hlong
    tauto
  · cases h

/-- A chain of two conditionals keeps truth. -/
theorem holds_of_chains {t a b : Formula} (h : Rule.chains t a b = true) (ha : ρ.Holds a)
    (hb : ρ.Holds b) : ρ.Holds t := by
  unfold Rule.chains at h
  split at h
  · simp only [Bool.and_eq_true] at h
    obtain ⟨⟨hq, hl⟩, hm⟩ := h
    rw [ρ.implies_iff] at ha hb ⊢
    rw [ρ.same_iff hq] at ha
    rw [ρ.same_iff hl, ρ.same_iff hm]
    exact fun hp => hb (ha hp)
  · cases h

/-- Hypothetical syllogism keeps truth. -/
theorem holds_of_allowsHypotheticalSyllogism {t a b : Formula}
    (h : Rule.allowsHypotheticalSyllogism t a b = true) (ha : ρ.Holds a) (hb : ρ.Holds b) :
    ρ.Holds t := by
  rw [Rule.allowsHypotheticalSyllogism, Bool.or_eq_true] at h
  rcases h with h | h
  · exact ρ.holds_of_chains h ha hb
  · exact ρ.holds_of_chains h hb ha

/-- Constructive dilemma keeps truth. -/
theorem holds_of_allowsConstructiveDilemma {t a b : Formula}
    (h : Rule.allowsConstructiveDilemma t a b = true) (ha : ρ.Holds a) (hb : ρ.Holds b) :
    ρ.Holds t := by
  obtain ⟨hlong, hshort⟩ := ρ.holds_of_longerFirst ha hb
  unfold Rule.allowsConstructiveDilemma at h
  split at h
  · next p q r s l m x y heq =>
    rw [heq] at hlong hshort
    rw [Bool.and_eq_true] at h
    have hcases := (ρ.of_samePair h.1).2
    have hgoal := (ρ.of_samePair h.2).2
    rw [ρ.and_iff, ρ.implies_iff, ρ.implies_iff] at hlong
    rw [ρ.or_iff, ← hcases] at hshort
    rw [ρ.or_iff, ← hgoal]
    exact hshort.imp hlong.1 hlong.2
  · cases h

/-- Disjunctive syllogism keeps truth. -/
theorem holds_of_allowsDisjunctiveSyllogism {t a b : Formula}
    (h : Rule.allowsDisjunctiveSyllogism t a b = true) (ha : ρ.Holds a) (hb : ρ.Holds b) :
    ρ.Holds t := by
  obtain ⟨hlong, hshort⟩ := ρ.holds_of_longerFirst ha hb
  unfold Rule.allowsDisjunctiveSyllogism at h
  split at h
  · next l r o heq =>
    rw [heq] at hlong hshort
    rw [ρ.or_iff] at hlong
    simp only [Bool.or_eq_true, Bool.and_eq_true] at h
    rcases h with ⟨hneg, hsame⟩ | ⟨hneg, hsame⟩
    · have hl := (ρ.isNegation_iff hneg).1
      exact (ρ.same_iff hsame).1 (hlong.resolve_left fun hl' => hl hl' hshort)
    · have hr := (ρ.isNegation_iff hneg).1
      exact (ρ.same_iff hsame).1 (hlong.resolve_right fun hr' => hr hr' hshort)
  · cases h

/-! ## Rules of replacement -/

/-- A rule that sees the two sides by length speaks about them in either order. -/
theorem iff_of_longerFirst {t s : Formula}
    (h : ρ.Holds (longerFirst t s).1 ↔ ρ.Holds (longerFirst t s).2) :
    ρ.Holds t ↔ ρ.Holds s := by
  unfold longerFirst at h
  split at h
  · exact h
  · exact h.symm

/-- Exchanging sides keeps truth in both directions. -/
theorem iff_of_commutes {t s : Formula} (h : Rule.commutes t s = true) :
    ρ.Holds t ↔ ρ.Holds s := by
  unfold Rule.commutes at h
  split at h
  · next op tl tr op' sl sr =>
    simp only [Bool.and_eq_true, decide_eq_true_eq] at h
    obtain ⟨⟨⟨hop, rfl⟩, hl⟩, hr⟩ := h
    rw [ρ.binary_iff, ρ.binary_iff, ρ.same_iff hl, ρ.same_iff hr]
    cases op with
    | and => exact and_comm
    | or => exact or_comm
    | _ => cases hop
  · cases h

/-- Regrouping makes no difference for conjunction and disjunction. -/
theorem regroup_iff {op : Connective} (hop : Rule.isLattice op = true) (p q r : Formula) :
    ρ.Holds (.binary op (.binary op p q) r) ↔ ρ.Holds (.binary op p (.binary op q r)) := by
  simp only [ρ.binary_iff]
  cases op with
  | and => exact and_assoc
  | or => exact or_assoc
  | _ => cases hop

/-- Regrouping keeps truth in both directions. -/
theorem iff_of_associates {t s : Formula} (h : Rule.associates t s = true) :
    ρ.Holds t ↔ ρ.Holds s := by
  unfold Rule.associates at h
  split at h
  · next op l r op' sl sr =>
    simp only [Bool.and_eq_true, Bool.or_eq_true, decide_eq_true_eq] at h
    obtain ⟨⟨hop, rfl⟩, h | h⟩ := h
    · split at h
      · next o p q =>
        simp only [Bool.and_eq_true, decide_eq_true_eq] at h
        obtain ⟨rfl, hsame⟩ := h
        rw [ρ.regroup_iff hop, ρ.same_iff hsame]
      · cases h
    · split at h
      · next o p q =>
        simp only [Bool.and_eq_true, decide_eq_true_eq] at h
        obtain ⟨rfl, hsame⟩ := h
        rw [← ρ.regroup_iff hop, ρ.same_iff hsame]
      · cases h
  · cases h

/-- Double negation keeps truth in both directions. -/
theorem iff_of_doublyNegates {t s : Formula} (h : Rule.doublyNegates t s = true) :
    ρ.Holds t ↔ ρ.Holds s := by
  apply ρ.iff_of_longerFirst
  unfold Rule.doublyNegates at h
  split at h
  · next f o heq =>
    rw [heq, ρ.not_iff, ρ.not_iff, not_not, ρ.same_iff h]
  · cases h

/-- A negation that moves to the sides keeps truth in both directions. -/
theorem iff_of_movesNegation {t s : Formula} (h : Rule.movesNegation t s = true) :
    ρ.Holds t ↔ ρ.Holds s := by
  unfold Rule.movesNegation at h
  split at h
  · next op p q op' l r =>
    simp only [Bool.and_eq_true, decide_eq_true_eq] at h
    obtain ⟨⟨hdual, hp⟩, hq⟩ := h
    have hl := ρ.isNegation_iff hp
    have hr := ρ.isNegation_iff hq
    cases op' with
    | and =>
      cases hdual
      rw [ρ.not_iff, ρ.or_iff, ρ.and_iff]
      tauto
    | or =>
      cases hdual
      rw [ρ.not_iff, ρ.and_iff, ρ.or_iff]
      tauto
    | _ => cases hdual
  · cases h

/-- The laws of De Morgan keep truth in both directions. -/
theorem iff_of_deMorgan {t s : Formula} (h : Rule.deMorgan t s = true) :
    ρ.Holds t ↔ ρ.Holds s := by
  unfold Rule.deMorgan at h
  split at h
  · exact ρ.iff_of_movesNegation h
  · exact (ρ.iff_of_movesNegation h).symm

/-- Distribution keeps truth in both directions. -/
theorem iff_of_distributes {t s : Formula} (h : Rule.distributes t s = true) :
    ρ.Holds t ↔ ρ.Holds s := by
  apply Iff.symm
  apply ρ.iff_of_longerFirst
  unfold Rule.distributes at h
  split at h
  · next outer l r op p inner q q' heq =>
    simp only [Bool.and_eq_true, decide_eq_true_eq] at h
    obtain ⟨⟨⟨hdual, rfl⟩, hl⟩, hr⟩ := h
    rw [heq]
    simp only [ρ.binary_iff] at *
    rw [ρ.same_iff hl, ρ.same_iff hr]
    cases op with
    | and =>
      cases hdual
      simp only [ρ.binary_iff, Connective.Says]
      tauto
    | or =>
      cases hdual
      simp only [ρ.binary_iff, Connective.Says]
      tauto
    | _ => cases hdual
  · cases h

/-- Turning a conditional round keeps truth in both directions. -/
theorem iff_of_transposes {t s : Formula} (h : Rule.transposes t s = true) :
    ρ.Holds t ↔ ρ.Holds s := by
  unfold Rule.transposes at h
  split at h
  · next tl tr sl sr =>
    rw [Bool.and_eq_true] at h
    rw [ρ.implies_iff, ρ.implies_iff, ρ.isNegation_iff h.1, ρ.isNegation_iff h.2]
    exact not_imp_not
  · cases h

/-- A conditional says what the disjunction does that it is read as. -/
theorem iff_of_impliesAsDisjunction {t s : Formula} (h : Rule.impliesAsDisjunction t s = true) :
    ρ.Holds t ↔ ρ.Holds s := by
  unfold Rule.impliesAsDisjunction at h
  split at h
  · next p q l r =>
    rw [Bool.and_eq_true] at h
    rw [ρ.implies_iff, ρ.or_iff, ρ.isNegation_iff h.1, ρ.same_iff h.2]
    tauto
  · cases h

/-- The reading of conditionals keeps truth in both directions. -/
theorem iff_of_impliesMaterially {t s : Formula} (h : Rule.impliesMaterially t s = true) :
    ρ.Holds t ↔ ρ.Holds s := by
  unfold Rule.impliesMaterially at h
  split at h
  · exact ρ.iff_of_impliesAsDisjunction h
  · exact (ρ.iff_of_impliesAsDisjunction h).symm

/-- The readings of biconditionals keep truth in both directions. -/
theorem iff_of_equalsMaterially {t s : Formula} (h : Rule.equalsMaterially t s = true) :
    ρ.Holds t ↔ ρ.Holds s := by
  apply ρ.iff_of_longerFirst
  unfold Rule.equalsMaterially at h
  split at h
  · next a b c d p q heq =>
    simp only [Bool.and_eq_true] at h
    obtain ⟨⟨⟨ha, hb⟩, hc⟩, hd⟩ := h
    rw [heq, ρ.and_iff, ρ.implies_iff, ρ.implies_iff, ρ.equivalent_iff, ρ.same_iff ha,
      ρ.same_iff hb, ρ.same_iff hc, ρ.same_iff hd]
    exact iff_iff_implies_and_implies.symm
  · next a b c d p q heq =>
    simp only [Bool.and_eq_true] at h
    obtain ⟨⟨⟨ha, hb⟩, hc⟩, hd⟩ := h
    rw [heq, ρ.or_iff, ρ.and_iff, ρ.and_iff, ρ.equivalent_iff, ρ.same_iff ha, ρ.same_iff hb,
      ρ.isNegation_iff hc, ρ.isNegation_iff hd]
    exact iff_iff_and_or_not_and_not.symm
  · cases h

/-- A conditional with a conjunction on the left says what the nested conditional does. -/
theorem iff_of_exportsFrom {t s : Formula} (h : Rule.exportsFrom t s = true) :
    ρ.Holds t ↔ ρ.Holds s := by
  unfold Rule.exportsFrom at h
  split at h
  · next p q r l m n =>
    simp only [Bool.and_eq_true] at h
    obtain ⟨⟨hp, hq⟩, hr⟩ := h
    rw [ρ.implies_iff, ρ.implies_iff, ρ.implies_iff, ρ.and_iff, ρ.same_iff hp, ρ.same_iff hq,
      ρ.same_iff hr]
    exact and_imp.symm
  · cases h

/-- Exportation keeps truth in both directions. -/
theorem iff_of_exports {t s : Formula} (h : Rule.exports t s = true) :
    ρ.Holds t ↔ ρ.Holds s := by
  rw [Rule.exports, Bool.or_eq_true] at h
  rcases h with h | h
  · exact ρ.iff_of_exportsFrom h
  · exact (ρ.iff_of_exportsFrom h).symm

/-- A formula that is joined with itself says what the formula does. -/
theorem iff_of_repeats {t s : Formula} (h : Rule.repeats t s = true) :
    ρ.Holds t ↔ ρ.Holds s := by
  unfold Rule.repeats at h
  split at h
  · next l r =>
    rw [Bool.and_eq_true] at h
    rw [ρ.or_iff, ← ρ.same_iff h.1, or_self_iff, ρ.same_iff h.2]
  · cases h

/-- Repetition keeps truth in both directions. -/
theorem iff_of_isTautologous {t s : Formula} (h : Rule.isTautologous t s = true) :
    ρ.Holds t ↔ ρ.Holds s := by
  rw [Rule.isTautologous, Bool.or_eq_true] at h
  rcases h with h | h
  · exact (ρ.iff_of_repeats h).symm
  · exact ρ.iff_of_repeats h

/-! ## Formulas without quantifiers -/

/-- Without quantifiers no negation moves through one. -/
theorem negatesQuantifier_eq_false {t s : Formula} (ht : t.isQuantifierFree = true)
    (hs : s.isQuantifierFree = true) : Rule.negatesQuantifier t s = false := by
  have key : ∀ {f g : Formula}, f.isQuantifierFree = true →
      Rule.movesThroughBlock f g = false := by
    intro f g hf
    cases f with
    | not f =>
      cases f with
      | quantified q v f => cases hf
      | _ => rfl
    | _ => rfl
  unfold Rule.negatesQuantifier
  split
  · exact key ht
  · exact key hs

/-- What has no quantifier is no generalization. -/
theorem generalizes_eq_false {t : Formula} (ht : t.isQuantifierFree = true) (s : Formula) :
    Rule.generalizes t s = false := by
  cases t with
  | quantified q v f => cases ht
  | _ => rfl

/-- What has no quantifier has no instances. -/
theorem allowsInstantiation_eq_false (t : Formula) {s : Formula} (hs : s.isQuantifierFree = true) :
    Rule.allowsInstantiation t s = false := by
  cases s with
  | quantified q v f => cases hs
  | _ => rfl

/-- The two sides of a simple rule that does not speak about quantifiers are true together. -/
theorem iff_of_propositional {rule : Rule} {R : SimpleRule} (hR : rule.simple? = some R)
    (hgeneralizes : rule ≠ .existentialGeneralization) (hmoves : rule ≠ .quantifierNegation)
    {t s : Formula} (h : R t s = true) : ρ.Holds t ↔ ρ.Holds s := by
  cases rule with
  | associativity => cases hR; exact ρ.iff_of_associates h
  | commutativity => cases hR; exact ρ.iff_of_commutes h
  | deMorgans => cases hR; exact ρ.iff_of_deMorgan h
  | distribution => cases hR; exact ρ.iff_of_distributes h
  | doubleNegation => cases hR; exact ρ.iff_of_doublyNegates h
  | existentialGeneralization => exact absurd rfl hgeneralizes
  | exportation => cases hR; exact ρ.iff_of_exports h
  | materialEquivalence => cases hR; exact ρ.iff_of_equalsMaterially h
  | materialImplication => cases hR; exact ρ.iff_of_impliesMaterially h
  | quantifierNegation => exact absurd rfl hmoves
  | tautology => cases hR; exact ρ.iff_of_isTautologous h
  | transposition => cases hR; exact ρ.iff_of_transposes h
  | _ => cases hR

/-- The two sides of a simple rule are true together, if there are no quantifiers in them. -/
theorem iff_of_simple? {rule : Rule} {R : SimpleRule} (hR : rule.simple? = some R) {t s : Formula}
    (ht : t.isQuantifierFree = true) (hs : s.isQuantifierFree = true) (h : R t s = true) :
    ρ.Holds t ↔ ρ.Holds s := by
  by_cases hgeneralizes : rule = .existentialGeneralization
  · subst hgeneralizes
    cases hR
    rw [generalizes_eq_false ht] at h
    cases h
  · by_cases hmoves : rule = .quantifierNegation
    · subst hmoves
      cases hR
      rw [negatesQuantifier_eq_false ht hs] at h
      cases h
    · exact ρ.iff_of_propositional hR hgeneralizes hmoves h

/-- A rule whose sides are true together keeps this inside of formulas without quantifiers. -/
theorem iff_of_lift {R : SimpleRule}
    (hR : ∀ {t s : Formula}, t.isQuantifierFree = true → s.isQuantifierFree = true →
      R t s = true → (ρ.Holds t ↔ ρ.Holds s)) {t s : Formula} (ht : t.isQuantifierFree = true)
    (hs : s.isQuantifierFree = true) (h : lift R t s = true) : ρ.Holds t ↔ ρ.Holds s := by
  have hparts : t.isQuantifierFree = true → s.isQuantifierFree = true →
      (ρ.Holds t ↔ ρ.Holds s) := by
    refine lift_induction (P := fun t s => t.isQuantifierFree = true → s.isQuantifierFree = true →
      (ρ.Holds t ↔ ρ.Holds s)) ?_ ?_ ?_ ?_ ?_ h
    · intro t s h ht hs
      exact hR ht hs h
    · intro t s ih ht hs
      rw [ρ.not_iff, ρ.not_iff, ih ht hs]
    · intro q v t s ih ht
      cases ht
    · intro op tl tr sl sr hsame ih ht hs
      rw [Formula.isQuantifierFree, Bool.and_eq_true] at ht hs
      rw [ρ.binary_iff, ρ.binary_iff, ρ.same_iff hsame, ih ht.2 hs.2]
    · intro op tl tr sl sr hsame ih ht hs
      rw [Formula.isQuantifierFree, Bool.and_eq_true] at ht hs
      rw [ρ.binary_iff, ρ.binary_iff, ρ.same_iff hsame, ih ht.1 hs.1]
  exact hparts ht hs

/-! ## Checking -/

/-- What follows from one true line is true. -/
theorem holds_of_fromLine? {rule : Rule} {allows : Formula → Formula → Bool}
    (hallows : rule.fromLine? = some allows) {target f : Formula}
    (hfree : f.isQuantifierFree = true) (h : allows target f = true) (hf : ρ.Holds f) :
    ρ.Holds target := by
  cases rule with
  | addition => cases hallows; exact ρ.holds_of_allowsAddition h hf
  | simplification => cases hallows; exact ρ.holds_of_allowsSimplification h hf
  | universalInstantiation =>
    cases hallows
    rw [allowsInstantiation_eq_false target hfree] at h
    cases h
  | _ => cases hallows

/-- What follows from two true lines is true. -/
theorem holds_of_fromLines? {rule : Rule} {allows : Formula → Formula → Formula → Bool}
    (hallows : rule.fromLines? = some allows) {target f g : Formula}
    (h : allows target f g = true) (hf : ρ.Holds f) (hg : ρ.Holds g) : ρ.Holds target := by
  cases rule with
  | conjunction => cases hallows; exact ρ.holds_of_allowsConjunction h hf hg
  | constructiveDilemma => cases hallows; exact ρ.holds_of_allowsConstructiveDilemma h hf hg
  | disjunctiveSyllogism => cases hallows; exact ρ.holds_of_allowsDisjunctiveSyllogism h hf hg
  | hypotheticalSyllogism => cases hallows; exact ρ.holds_of_allowsHypotheticalSyllogism h hf hg
  | modusPonens => cases hallows; exact ρ.holds_of_allowsModusPonens h hf hg
  | modusTollens => cases hallows; exact ρ.holds_of_allowsModusTollens h hf hg
  | _ => cases hallows

/-- **No rule that rests on the lines it cites leads from truth to falsity**, as long as there are
no quantifiers. -/
theorem holds_of_check {rule : Rule} (hrests : rule.restsOnCitations = true) {room : Nat}
    {target : Formula} {sources : List Source} (hcount : sources.length = rule.citedCount)
    (h : rule.check room target sources = .ok true) (htarget : target.isQuantifierFree = true)
    (hfree : ∀ a ∈ sources, a.proposition.isQuantifierFree = true)
    (hholds : ∀ a ∈ sources, ρ.Holds a.proposition) : ρ.Holds target := by
  rcases rule.check_kinds with hzero | ⟨R, hR, hone⟩ | ⟨allows, hallows, hone⟩ |
    ⟨allows, hallows, htwo⟩ | ⟨allows, hallows, htwo⟩
  · cases rule with
    | premise => cases hrests
    | assumption => cases hrests
    | _ => cases hzero
  · obtain ⟨a, rfl⟩ := List.length_eq_one_iff.1 (hcount.trans hone)
    rw [Rule.check_of_simple? hR, Procedure.withRoom_eq_ok_iff] at h
    have ha : a ∈ [a] := List.mem_cons_self
    refine (ρ.iff_of_lift ?_ htarget (hfree a ha) h.2).2 (hholds a ha)
    exact fun ht hs happlies => ρ.iff_of_simple? hR ht hs happlies
  · obtain ⟨a, rfl⟩ := List.length_eq_one_iff.1 (hcount.trans hone)
    rw [Rule.check_of_fromLine? hallows, Except.ok.injEq] at h
    have ha : a ∈ [a] := List.mem_cons_self
    exact ρ.holds_of_fromLine? hallows (hfree a ha) h (hholds a ha)
  · obtain ⟨a, b, rfl⟩ := List.length_eq_two.1 (hcount.trans htwo)
    rw [Rule.check_of_fromLines? hallows, Except.ok.injEq] at h
    exact ρ.holds_of_fromLines? hallows h (hholds a (by simp)) (hholds b (by simp))
  · cases rule with
    | conditionalProof => cases hrests
    | indirectProof => cases hrests
    | _ => cases hallows

end Reading

end NaturalDeduction
