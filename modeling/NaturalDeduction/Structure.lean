import NaturalDeduction.Formula.Rename

/-!
# First-order structures

What formulas mean. A structure has a domain, a relation for each predicate symbol and a truth value
for each propositional variable; a valuation gives each letter a thing of the domain
(`Structure.Holds`). A quantifier speaks about all values of its letter, so what a formula says
depends only on the letters that stand for things in it (`Structure.holds_congr`).
-/

namespace NaturalDeduction

/-- A domain with the things that are said about it. -/
structure Structure where
  /-- The things. -/
  Domain : Type
  /-- Of which lists of things a predicate is true. -/
  relation : PredicateSymbol → List Domain → Prop
  /-- Which propositional variables are true. -/
  proposition : Letter → Prop

/-- A thing for each letter. -/
abbrev Structure.Valuation (M : Structure) : Type := Letter → M.Domain

/-- The valuation with another thing for one letter. -/
def Structure.Valuation.set {M : Structure} (e : M.Valuation) (x : Letter) (d : M.Domain) :
    M.Valuation :=
  fun a => if a = x then d else e a

/-- What a connective says about two propositions. -/
def Connective.Says : Connective → Prop → Prop → Prop
  | .or, p, q => p ∨ q
  | .and, p, q => p ∧ q
  | .implies, p, q => p → q
  | .equivalent, p, q => p ↔ q

/-- What a quantifier says about a property of things. -/
def Quantifier.Says : Quantifier → {α : Type} → (α → Prop) → Prop
  | .existential, _, p => ∃ d, p d
  | .universal, _, p => ∀ d, p d

/-- What a connective says depends on whether its sides hold, and not on how they are said. -/
theorem Connective.says_congr (op : Connective) {p p' q q' : Prop} (hp : p ↔ p') (hq : q ↔ q') :
    op.Says p q ↔ op.Says p' q' := by
  rw [propext hp, propext hq]

namespace Structure

/-- Whether a formula is true in a structure under a valuation. -/
def Holds (M : Structure) (e : M.Valuation) : Formula → Prop
  | .atom a => M.proposition a
  | .predicate P t ts => M.relation P ((t.head :: termLetters t ts).map e)
  | .not f => ¬ M.Holds e f
  | .binary op l r => op.Says (M.Holds e l) (M.Holds e r)
  | .quantified q x f => q.Says fun d => M.Holds (e.set x d) f

/-- What a quantifier says depends on which things have the property. -/
theorem says_congr (q : Quantifier) {α : Type} {p p' : α → Prop} (h : ∀ d, p d ↔ p' d) :
    q.Says p ↔ q.Says p' := by
  cases q with
  | existential => exact exists_congr h
  | universal => exact forall_congr' h

/-- What a formula says depends on its letters alone. -/
theorem holds_congr (M : Structure) {e e' : M.Valuation} {f : Formula}
    (h : ∀ a ∈ f.objectLetters, e a = e' a) : M.Holds e f ↔ M.Holds e' f := by
  induction f generalizing e e' with
  | atom a => exact Iff.rfl
  | predicate P t ts =>
    have heq : (t.head :: termLetters t ts).map e = (t.head :: termLetters t ts).map e' :=
      List.map_congr_left h
    simp only [Holds]
    rw [heq]
  | not f ih => exact not_congr (ih h)
  | binary op l r ihl ihr =>
    have hl := ihl fun a ha => h a (List.mem_append_left _ ha)
    have hr := ihr fun a ha => h a (List.mem_append_right _ ha)
    exact op.says_congr hl hr
  | quantified q x f ih =>
    refine says_congr q fun d => ih fun a ha => ?_
    by_cases hax : a = x
    · simp [Valuation.set, hax]
    · have := h a (List.mem_cons_of_mem _ ha)
      simp [Valuation.set, hax, this]

end Structure

end NaturalDeduction
