import NaturalDeduction.Proofs.Reading
import NaturalDeduction.Proofs.RoundTrip

/-!
# Rules of replacement keep the meaning

Truth in a structure under a valuation is a reading of formulas (`Reading.ofStructure`), so what the
rules of replacement do to their two sides is known from `NaturalDeduction.Proofs.Reading`. Two
things are new where there are quantifiers. Negation goes through a block of quantifiers and
exchanges them (`Structure.holds_iff_not_of_dualBlocks`), and the place at which a rule is applied
may be in the scope of a quantifier, where the valuation is another one
(`Structure.holds_iff_of_lift`). The main result is `Structure.holds_iff_of_replacement`: wherever
one of the eleven rules applies, the two formulas are true in the same structures under the same
valuations.
-/

namespace NaturalDeduction

/-! ## Truth in a structure as a reading -/

/-- Truth in a structure does not depend on how letters are grouped into terms. -/
theorem Structure.holds_cutTerms (M : Structure) (e : M.Valuation) (f : Formula) :
    M.Holds e f.cutTerms ↔ M.Holds e f := by
  induction f generalizing e with
  | atom a => exact Iff.rfl
  | predicate P t ts =>
    rw [Formula.cutTerms, Holds, Formula.termLetters_ofLetter]
    exact Iff.rfl
  | not f ih => exact not_congr (ih e)
  | binary op l r ihl ihr => exact op.says_congr (ihl e) (ihr e)
  | quantified q x f ih => exact says_congr q fun d => ih (e.set x d)

/-- Truth in a structure under a valuation. -/
def Reading.ofStructure (M : Structure) (e : M.Valuation) : Reading where
  Holds f := M.Holds e f
  not_iff _ := Iff.rfl
  binary_iff _ _ _ := Iff.rfl
  same_iff h := by
    have hcut := Formula.same_iff_cutTerms_eq.1 h
    rw [← M.holds_cutTerms, hcut, M.holds_cutTerms]

/-! ## Blocks of quantifiers -/

/-- Negation exchanges the quantifiers. -/
theorem Quantifier.not_says_iff (q : Quantifier) {α : Type} (p : α → Prop) :
    ¬ q.Says p ↔ q.dual.Says fun d => ¬ p d := by
  cases q with
  | existential => exact not_exists
  | universal => exact not_forall

namespace Structure

variable (M : Structure)

/-- **Negation goes through blocks of quantifiers**: a formula is true where the one with the dual
block is not. -/
theorem holds_iff_not_of_dualBlocks {f g : Formula} (h : Rule.dualBlocks f g = true)
    (e : M.Valuation) : M.Holds e f ↔ ¬ M.Holds e g := by
  induction f generalizing g e with
  | quantified q v f ih =>
    cases g with
    | quantified q' v' g =>
      simp only [Rule.dualBlocks, Bool.and_eq_true, Bool.or_eq_true, decide_eq_true_eq] at h
      obtain ⟨⟨rfl, rfl⟩, h⟩ := h
      have hscope : ∀ d, M.Holds (e.set v d) f ↔ ¬ M.Holds (e.set v d) g := by
        intro d
        rcases h with hnegation | hblocks
        · exact (Reading.ofStructure M (e.set v d)).isNegation_iff hnegation
        · exact ih hblocks (e.set v d)
      calc M.Holds e (.quantified q v f)
          ↔ q.Says fun d => ¬ M.Holds (e.set v d) g := says_congr q hscope
        _ ↔ q.dual.dual.Says fun d => ¬ M.Holds (e.set v d) g := by rw [Quantifier.dual_dual]
        _ ↔ ¬ M.Holds e (.quantified q.dual v g) := (Quantifier.not_says_iff q.dual _).symm
    | _ => cases h
  | _ => cases h

/-- A negation that moves through a block of quantifiers keeps truth in both directions. -/
theorem holds_iff_of_movesThroughBlock {t s : Formula} (h : Rule.movesThroughBlock t s = true)
    (e : M.Valuation) : M.Holds e t ↔ M.Holds e s := by
  cases t with
  | not f =>
    have hdual : M.Holds e f ↔ ¬ M.Holds e s := M.holds_iff_not_of_dualBlocks h e
    rw [Holds, hdual, not_not]
  | _ => cases h

/-- Moving a negation through quantifiers keeps truth, whichever formula has the negation in front.
-/
theorem holds_iff_of_negatesQuantifier {t s : Formula} (h : Rule.negatesQuantifier t s = true)
    (e : M.Valuation) : M.Holds e t ↔ M.Holds e s := by
  unfold Rule.negatesQuantifier at h
  split at h
  · exact M.holds_iff_of_movesThroughBlock h e
  · exact (M.holds_iff_of_movesThroughBlock h e).symm

/-! ## Rules inside formulas -/

/-- A rule whose sides are true under the same valuations keeps this at every place of a formula,
also in the scope of quantifiers. -/
theorem holds_iff_of_lift {R : SimpleRule}
    (hR : ∀ {t s : Formula}, R t s = true → ∀ e, M.Holds e t ↔ M.Holds e s) {t s : Formula}
    (h : lift R t s = true) (e : M.Valuation) : M.Holds e t ↔ M.Holds e s := by
  have hall : ∀ e, M.Holds e t ↔ M.Holds e s := by
    refine lift_induction (P := fun t s => ∀ e, M.Holds e t ↔ M.Holds e s) hR ?_ ?_ ?_ ?_ h
    · intro t s ih e
      exact not_congr (ih e)
    · intro q v t s ih e
      exact says_congr q fun d => ih (e.set v d)
    · intro op tl tr sl sr hsame ih e
      exact op.says_congr ((Reading.ofStructure M e).same_iff hsame) (ih e)
    · intro op tl tr sl sr hsame ih e
      exact op.says_congr (ih e) ((Reading.ofStructure M e).same_iff hsame)
  exact hall e

end Structure

/-- The rules of replacement, and the one that moves negation through quantifiers. -/
def Rule.replacements : List Rule :=
  [.commutativity, .associativity, .doubleNegation, .deMorgans, .distribution, .transposition,
    .materialImplication, .materialEquivalence, .exportation, .tautology, .quantifierNegation]

/-- **Rules of replacement keep the meaning.** Each of them is a simple rule, and two formulas
between which it holds, at whatever place, are true in the same structures under the same
valuations. -/
theorem Structure.holds_iff_of_replacement {rule : Rule} (hrule : rule ∈ Rule.replacements) :
    ∃ R, rule.simple? = some R ∧
      ∀ t s : Formula, lift R t s = true →
        ∀ (M : Structure) (e : M.Valuation), M.Holds e t ↔ M.Holds e s := by
  obtain ⟨R, hR⟩ : ∃ R, rule.simple? = some R := by
    cases rule <;> first | exact ⟨_, rfl⟩ | exact absurd hrule (by decide)
  refine ⟨R, hR, fun t s h M e => M.holds_iff_of_lift ?_ h e⟩
  intro t s h e
  by_cases hmoves : rule = .quantifierNegation
  · subst hmoves
    cases hR
    exact M.holds_iff_of_negatesQuantifier h e
  · have hgeneralizes : rule ≠ .existentialGeneralization := by
      rintro rfl
      exact absurd hrule (by decide)
    exact (Reading.ofStructure M e).iff_of_propositional hR hgeneralizes hmoves h

/-- Negation moves through two quantifiers, in the scope of a third one and to the right of a
conditional, among the numbers and their order. -/
theorem Structure.holds_iff_under_quantifier :
    let x : Letter := ⟨'x', rfl⟩
    let y : Letter := ⟨'y', rfl⟩
    let f : Formula := .predicate ⟨'F', rfl⟩ (.ofLetter x) [.ofLetter y]
    let inside : Formula → Formula := fun g =>
      .quantified .universal ⟨'z', rfl⟩ (.binary .implies (.atom ⟨'p', rfl⟩) g)
    let t := inside (.not (.quantified .existential x (.quantified .universal y f)))
    let s := inside (.quantified .universal x (.quantified .existential y (.not f)))
    let M : Structure := ⟨Nat, fun _ ds => ds.Pairwise (· ≥ ·), fun _ => True⟩
    Rule.quantifierNegation ∈ Rule.replacements ∧ lift Rule.negatesQuantifier t s = true ∧
      (M.Holds (fun _ => 0) t ↔ M.Holds (fun _ => 0) s) := by
  intro x y f inside t s M
  have hrule : Rule.quantifierNegation ∈ Rule.replacements := by decide
  have hlift : lift Rule.negatesQuantifier t s = true := by decide
  obtain ⟨R, hR, hreplaces⟩ := holds_iff_of_replacement hrule
  cases hR
  exact ⟨hrule, hlift, hreplaces t s hlift M _⟩

end NaturalDeduction
