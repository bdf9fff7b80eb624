import NaturalDeduction.Formula.Context
import NaturalDeduction.Proofs.Sameness
import NaturalDeduction.Rule.Replacement

/-!
# What lifting means

A lifted rule goes down two formulas as long as they differ in one operand only. What it finds can
be said without any search (`lift_eq_true_iff_exists_context`): the two formulas are the same as one
context filled in two ways, with formulas between which the simple rule holds.

From left to right the context grows by one operator at each step of the search
(`exists_fill_of_lift`, by `lift_induction`); where both operands agree, either branch of the search
gives a context. From right to left, `lift_fill` finds the place in the filled context itself, and a
rule that does not tell same formulas apart does not do so when it is lifted (`lift_of_same`). The
simple rule has to respect sameness for this: a search that compares operands by their canonical
forms cannot see more.
-/

namespace NaturalDeduction

/-- Whether a rule does not tell same formulas apart. -/
def SimpleRule.Respects (R : SimpleRule) : Prop :=
  ∀ {t t' s s' : Formula}, t.same t' = true → s.same s' = true → R t s = R t' s'

/-! ## Sameness and exchange -/

section

variable {R : SimpleRule} {t s : Formula}

/-- A rule that respects sameness does so inside of formulas. -/
theorem lift_of_same (hR : R.Respects) (h : lift R t s = true) {t' s' : Formula}
    (ht : t.same t' = true) (hs : s.same s' = true) : lift R t' s' = true := by
  have hall : ∀ t' s' : Formula, t.same t' = true → s.same s' = true → lift R t' s' = true := by
    refine lift_induction (P := fun t s => ∀ t' s' : Formula, t.same t' = true →
      s.same s' = true → lift R t' s' = true) ?_ ?_ ?_ ?_ ?_ h
    · intro t s h t' s' ht hs
      apply lift_of_rule
      rwa [← hR ht hs]
    · intro t s ih t' s' ht hs
      obtain ⟨t₁, rfl, ht₁⟩ := Formula.exists_of_not_same ht
      obtain ⟨s₁, rfl, hs₁⟩ := Formula.exists_of_not_same hs
      exact lift_not (ih t₁ s₁ ht₁ hs₁)
    · intro q v t s ih t' s' ht hs
      obtain ⟨t₁, rfl, ht₁⟩ := Formula.exists_of_quantified_same ht
      obtain ⟨s₁, rfl, hs₁⟩ := Formula.exists_of_quantified_same hs
      exact lift_quantified q v (ih t₁ s₁ ht₁ hs₁)
    · intro op tl tr sl sr hsame ih t' s' ht hs
      obtain ⟨tl', tr', rfl, htl, htr⟩ := Formula.exists_of_binary_same ht
      obtain ⟨sl', sr', rfl, hsl, hsr⟩ := Formula.exists_of_binary_same hs
      have hleft : tl'.same sl' = true := Formula.same_of_same htl (Formula.same_trans hsame hsl)
      exact lift_right op hleft (ih tr' sr' htr hsr)
    · intro op tl tr sl sr hsame ih t' s' ht hs
      obtain ⟨tl', tr', rfl, htl, htr⟩ := Formula.exists_of_binary_same ht
      obtain ⟨sl', sr', rfl, hsl, hsr⟩ := Formula.exists_of_binary_same hs
      have hright : tr'.same sr' = true := Formula.same_of_same htr (Formula.same_trans hsame hsr)
      exact lift_left op hright (ih tl' sl' htl hsl)
  exact hall t' s' ht hs

/-- A rule that does not tell the target from the source does not do so inside of formulas. -/
theorem lift_comm (hR : ∀ t s, R t s = R s t) (t s : Formula) : lift R t s = lift R s t := by
  have hswap : ∀ {t s : Formula}, lift R t s = true → lift R s t = true := by
    intro t s h
    refine lift_induction (P := fun t s => lift R s t = true) ?_ ?_ ?_ ?_ ?_ h
    · intro t s h
      apply lift_of_rule
      rwa [hR]
    · intro t s ih
      exact lift_not ih
    · intro q v t s ih
      exact lift_quantified q v ih
    · intro op tl tr sl sr hsame ih
      exact lift_right op (Formula.same_symm hsame) ih
    · intro op tl tr sl sr hsame ih
      exact lift_left op (Formula.same_symm hsame) ih
  rw [Bool.eq_iff_iff]
  exact ⟨hswap, hswap⟩

end

/-! ## Contexts -/

/-- Where a lifted rule holds, the two formulas are one context filled in two ways. -/
theorem exists_fill_of_lift {R : SimpleRule} {t s : Formula} (h : lift R t s = true) :
    ∃ (C : Context) (a b : Formula),
      t.same (C.fill a) = true ∧ s.same (C.fill b) = true ∧ R a b = true := by
  refine lift_induction (P := fun t s => ∃ (C : Context) (a b : Formula),
    t.same (C.fill a) = true ∧ s.same (C.fill b) = true ∧ R a b = true) ?_ ?_ ?_ ?_ ?_ h
  · intro t s h
    exact ⟨.hole, t, s, Formula.same_refl t, Formula.same_refl s, h⟩
  · rintro t s ⟨C, a, b, ht, hs, h⟩
    exact ⟨.not C, a, b, Formula.same_not_iff.2 ht, Formula.same_not_iff.2 hs, h⟩
  · rintro q v t s ⟨C, a, b, ht, hs, h⟩
    refine ⟨.quantified q v C, a, b, ?_, ?_, h⟩
    · exact Formula.same_quantified_iff.2 ⟨rfl, rfl, ht⟩
    · exact Formula.same_quantified_iff.2 ⟨rfl, rfl, hs⟩
  · rintro op tl tr sl sr hsame ⟨C, a, b, ht, hs, h⟩
    -- the fixed operand is the target's; the source has the same one
    refine ⟨.right op tl C, a, b, ?_, ?_, h⟩
    · exact Formula.same_binary_iff.2 ⟨rfl, Formula.same_refl tl, ht⟩
    · exact Formula.same_binary_iff.2 ⟨rfl, Formula.same_symm hsame, hs⟩
  · rintro op tl tr sl sr hsame ⟨C, a, b, ht, hs, h⟩
    refine ⟨.left op C tr, a, b, ?_, ?_, h⟩
    · exact Formula.same_binary_iff.2 ⟨rfl, ht, Formula.same_refl tr⟩
    · exact Formula.same_binary_iff.2 ⟨rfl, hs, Formula.same_symm hsame⟩

/-- **What lifting means.** A lifted rule holds of a target and a source exactly if they are the
same as one context filled in two ways, with formulas of which the simple rule holds. -/
theorem lift_eq_true_iff_exists_context {R : SimpleRule} (hR : R.Respects) (t s : Formula) :
    lift R t s = true ↔
      ∃ (C : Context) (a b : Formula),
        t.same (C.fill a) = true ∧ s.same (C.fill b) = true ∧ R a b = true := by
  constructor
  · intro h
    exact exists_fill_of_lift h
  · rintro ⟨C, a, b, ht, hs, h⟩
    have hfill : lift R (C.fill a) (C.fill b) = true := lift_fill R C h
    exact lift_of_same hR hfill (Formula.same_symm ht) (Formula.same_symm hs)

/-- Exchanging sides depends only on what the formulas are the same as. -/
theorem Rule.respects_commutes : SimpleRule.Respects Rule.commutes := by
  have hone : ∀ {t t' s s' : Formula}, t.same t' = true → s.same s' = true →
      Rule.commutes t s = true → Rule.commutes t' s' = true := by
    intro t t' s s' ht hs h
    unfold Rule.commutes at h
    split at h
    · next op tl tr op' sl sr =>
      obtain ⟨tl', tr', rfl, htl, htr⟩ := Formula.exists_of_binary_same ht
      obtain ⟨sl', sr', rfl, hsl, hsr⟩ := Formula.exists_of_binary_same hs
      simp only [Bool.and_eq_true, decide_eq_true_eq] at h
      obtain ⟨⟨⟨hop, rfl⟩, hlr⟩, hrl⟩ := h
      have hlr' : tl'.same sr' = true := Formula.same_of_same htl (Formula.same_trans hlr hsr)
      have hrl' : tr'.same sl' = true := Formula.same_of_same htr (Formula.same_trans hrl hsl)
      simp [Rule.commutes, hop, hlr', hrl']
    · cases h
  intro t t' s s' ht hs
  rw [Bool.eq_iff_iff]
  exact ⟨hone ht hs, hone (Formula.same_symm ht) (Formula.same_symm hs)⟩

/-- Commutativity in the scope of a quantifier, under a negation and beside an operand whose letters
are grouped in different ways, so that there is a context; and at both operands of a disjunction at
once, so that there is none. -/
theorem lift_commutes_iff_context :
    let p : Formula := .atom ⟨'p', rfl⟩
    let q : Formula := .atom ⟨'q', rfl⟩
    let a : Letter := ⟨'a', rfl⟩
    let grouped : Formula := .predicate ⟨'F', rfl⟩ ⟨a, [a]⟩ []
    let single : Formula := .predicate ⟨'F', rfl⟩ (.ofLetter a) [.ofLetter a]
    let inside : Formula → Formula → Formula := fun f g =>
      .quantified .universal ⟨'x', rfl⟩ (.not (.binary .implies f g))
    let both : Formula → Formula := fun f => .binary .or f f
    SimpleRule.Respects Rule.commutes ∧
      (∃ (C : Context) (f g : Formula),
        (inside grouped (.binary .and p q)).same (C.fill f) = true ∧
          (inside single (.binary .and q p)).same (C.fill g) = true ∧ Rule.commutes f g = true) ∧
      ¬ ∃ (C : Context) (f g : Formula),
        (both (.binary .and p q)).same (C.fill f) = true ∧
          (both (.binary .and q p)).same (C.fill g) = true ∧ Rule.commutes f g = true := by
  intro p q a grouped single inside both
  have hfound : lift Rule.commutes (inside grouped (.binary .and p q))
      (inside single (.binary .and q p)) = true := by decide
  have hmissed : lift Rule.commutes (both (.binary .and p q)) (both (.binary .and q p)) ≠ true := by
    decide
  refine ⟨Rule.respects_commutes, ?_, ?_⟩
  · exact (lift_eq_true_iff_exists_context Rule.respects_commutes _ _).1 hfound
  · intro hcontext
    exact hmissed ((lift_eq_true_iff_exists_context Rule.respects_commutes _ _).2 hcontext)

end NaturalDeduction
