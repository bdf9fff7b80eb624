import NaturalDeduction.Proofs.Instances
import NaturalDeduction.Proofs.Replacement

/-!
# What an instance means

An instance has one letter for another wherever it occurs, bound or not and also next to a
quantifier. What it says is then not always what the scope says of the thing that the new letter
stands for: from `Ax(Ey(F(x,y)))` instantiation leads to `Ey(F(y,y))`, where the letter put for `x`
has come into the scope of a quantifier over it (`Structure.instantiation_captures`).

Which quantifier binds a term is told by the number of quantifiers between the two
(`Formula.binders`). If these numbers are the same before and after (`Formula.SameBinding`), an
instance means what it should: it is true under a valuation exactly if the scope is true with the
variable standing for the same thing as the new letter (`Structure.holds_rename`). Along the
formula, the two valuations agree on every letter that keeps its binder (`Structure.Agree`); each
quantifier sets one letter in either of them and keeps the agreement (`Structure.Agree.set`).

So instantiation is sound where nothing is captured (`Structure.holds_of_instantiation`), and in a
scope without quantifiers nothing can be (`Structure.holds_of_quantifierFree`).
-/

namespace NaturalDeduction

/-! ## Binders -/

namespace Formula

/-- For each term, in order, how many quantifiers stand between it and the one that binds it, if one
does. `bound` has the variables of the quantifiers further out, the nearest first. -/
def binders (bound : List Letter) : Formula → List (Option Nat)
  | atom _ => []
  | predicate _ t ts => (t.head :: termLetters t ts).map bound.idxOf?
  | not f => f.binders bound
  | binary _ l r => l.binders bound ++ r.binders bound
  | quantified _ x f => f.binders (x :: bound)

/-- The terms of two formulas are bound at the same places, or at none. -/
def SameBinding (f g : Formula) : Prop :=
  f.binders [] = g.binders []

instance (f g : Formula) : Decidable (f.SameBinding g) :=
  inferInstanceAs (Decidable (f.binders [] = g.binders []))

/-- Cutting terms leaves every letter its binder. -/
theorem binders_cutTerms (f : Formula) (bound : List Letter) :
    f.cutTerms.binders bound = f.binders bound := by
  induction f generalizing bound with
  | atom a => rfl
  | predicate P t ts =>
    rw [cutTerms, binders, termLetters_ofLetter]
    rfl
  | not f ih => exact ih bound
  | binary op l r ihl ihr => rw [cutTerms, binders, ihl, ihr, binders]
  | quantified q x f ih => exact ih (x :: bound)

/-- Same formulas have the same binders. -/
theorem sameBinding_of_same {f g : Formula} (h : f.same g = true) : f.SameBinding g := by
  rw [SameBinding, ← binders_cutTerms f, same_iff_cutTerms_eq.1 h, binders_cutTerms]

/-- The binders in a renamed predicate are those of the new letters. -/
theorem binders_rename_predicate (v c : Letter) (P : PredicateSymbol) (t : Term) (ts : List Term)
    (bound : List Letter) :
    ((predicate P t ts).rename v c).binders bound =
      (t.head :: termLetters t ts).map fun a => bound.idxOf? (Letter.rename v c a) := by
  rw [rename, binders, termLetters_rename]
  simp [Term.rename]

/-- Renaming leaves the number of terms as it is. -/
theorem length_binders_rename (v c : Letter) (f : Formula) (bound bound' : List Letter) :
    ((f.rename v c).binders bound).length = (f.binders bound').length := by
  induction f generalizing bound bound' with
  | atom a => rfl
  | predicate P t ts => rw [binders_rename_predicate, binders, List.length_map, List.length_map]
  | not f ih => exact ih bound bound'
  | binary op l r ihl ihr => simp [rename, binders, ihl bound bound', ihr bound bound']
  | quantified q x f ih => exact ih _ _

/-- Without quantifiers nothing is bound, neither before nor after. -/
theorem sameBinding_rename_of_isQuantifierFree {f : Formula} (hf : f.isQuantifierFree = true)
    (v c : Letter) : f.SameBinding (f.rename v c) := by
  unfold SameBinding
  induction f with
  | atom a => rfl
  | predicate P t ts => rw [binders_rename_predicate, binders]; rfl
  | not f ih => exact ih hf
  | binary op l r ihl ihr =>
    rw [isQuantifierFree, Bool.and_eq_true] at hf
    rw [rename, binders, binders, ihl hf.1, ihr hf.2]
  | quantified q x f ih => cases hf

/-- Where no letter has two roles, the variable of a quantifier is no propositional variable. -/
theorem SeparatesRoles.not_mem_scope {q : Quantifier} {v : Letter} {f : Formula}
    (h : (quantified q v f).SeparatesRoles) : v ∉ f.variableLetters := by
  intro hv
  exact h v hv List.mem_cons_self

end Formula

/-! ## Valuations along a renaming -/

namespace Structure

variable {M : Structure} {v c : Letter}

/-- Under quantifiers over `bound`, the second valuation gives the new letter what the first gives
the old one, for every letter that keeps its binder. -/
def Agree (v c : Letter) (bound : List Letter) (e e' : M.Valuation) : Prop :=
  ∀ a, bound.idxOf? a = (bound.map (Letter.rename v c)).idxOf? (Letter.rename v c a) →
    e a = e' (Letter.rename v c a)

/-- A quantifier that gives its letter the same thing in both keeps the agreement. -/
theorem Agree.set {bound : List Letter} {e e' : M.Valuation} (h : Agree v c bound e e') (x : Letter)
    (d : M.Domain) :
    Agree v c (x :: bound) (e.set x d) (e'.set (Letter.rename v c x) d) := by
  intro a ha
  rw [List.map_cons, List.idxOf?_cons, List.idxOf?_cons] at ha
  by_cases hx : x = a
  · simp [Valuation.set, hx]
  · by_cases hx' : Letter.rename v c x = Letter.rename v c a
    · -- the quantifier would bind the new letter and not the old one
      simp [hx, hx'] at ha
    · simp only [beq_iff_eq, hx, hx', if_false] at ha
      have hbinder := Option.map_injective (fun _ _ => Nat.succ.inj) ha
      simp [Valuation.set, Ne.symm hx, Ne.symm hx', h a hbinder]

/-- Truth under a renaming, below quantifiers. -/
theorem holds_rename_iff_of_agree {f : Formula} (hv : v ∉ f.variableLetters) {bound : List Letter}
    (hbinders : f.binders bound = (f.rename v c).binders (bound.map (Letter.rename v c)))
    {e e' : M.Valuation} (h : Agree v c bound e e') :
    M.Holds e' (f.rename v c) ↔ M.Holds e f := by
  -- below a quantifier both valuations and the binders above are others
  induction f generalizing bound e e' with
  | atom a =>
    have hne : a ≠ v := by
      rintro rfl
      exact hv (List.mem_singleton.2 rfl)
    simp [Formula.rename, Letter.rename, hne, Holds]
  | predicate P t ts =>
    rw [Formula.binders_rename_predicate, Formula.binders] at hbinders
    have hterms : (t.head :: termLetters t ts).map e =
        ((t.head :: termLetters t ts).map (Letter.rename v c)).map e' := by
      rw [List.map_map]
      exact List.map_congr_left fun a ha => h a (List.map_inj_left.1 hbinders a ha)
    rw [Formula.rename, Holds, Holds, Formula.termLetters_rename, hterms]
    rfl
  | not f ih => exact not_congr (ih hv hbinders h)
  | binary op l r ihl ihr =>
    rw [Formula.variableLetters, List.mem_append, not_or] at hv
    have hlength := Formula.length_binders_rename v c l (bound.map (Letter.rename v c)) bound
    obtain ⟨hl, hr⟩ := List.append_inj hbinders hlength.symm
    exact op.says_congr (ihl hv.1 hl h) (ihr hv.2 hr h)
  | quantified q x f ih =>
    exact says_congr q fun d => ih hv hbinders (h.set x d)

/-- **What an instance says**: where no binder changes, it says of the new letter what the scope
says of the variable. -/
theorem holds_rename {f : Formula} (hv : v ∉ f.variableLetters)
    (hbinding : f.SameBinding (f.rename v c)) (e : M.Valuation) :
    M.Holds e (f.rename v c) ↔ M.Holds (e.set v (e c)) f := by
  have hagree : Agree v c [] (e.set v (e c)) e := by
    intro a _
    unfold Letter.rename Valuation.set
    split <;> rfl
  exact holds_rename_iff_of_agree hv hbinding hagree

/-- What an instance says, for formulas that are the same as a renaming. -/
theorem holds_iff_of_same_rename {f g : Formula} (hv : v ∉ f.variableLetters)
    (hsame : g.same (f.rename v c) = true) (hbinding : f.SameBinding g) (e : M.Valuation) :
    M.Holds e g ↔ M.Holds (e.set v (e c)) f := by
  have hrename : f.SameBinding (f.rename v c) :=
    hbinding.trans (Formula.sameBinding_of_same hsame)
  calc M.Holds e g
      ↔ M.Holds e (f.rename v c) := (Reading.ofStructure M e).same_iff hsame
    _ ↔ M.Holds (e.set v (e c)) f := holds_rename hv hrename e

/-- What holds of everything holds of the thing that a letter stands for. -/
theorem holds_of_universal {f g : Formula} (hv : v ∉ f.variableLetters)
    (hsame : g.same (f.rename v c) = true) (hbinding : f.SameBinding g) {e : M.Valuation}
    (h : M.Holds e (.quantified .universal v f)) : M.Holds e g :=
  (holds_iff_of_same_rename hv hsame hbinding e).2 (h (e c))

/-- What holds of the thing that a letter stands for holds of something. -/
theorem holds_existential {f g : Formula} (hv : v ∉ f.variableLetters)
    (hsame : g.same (f.rename v c) = true) (hbinding : f.SameBinding g) {e : M.Valuation}
    (h : M.Holds e g) : M.Holds e (.quantified .existential v f) :=
  ⟨e c, (holds_iff_of_same_rename hv hsame hbinding e).1 h⟩

/-! ## Instantiation -/

/-- **Instantiation is sound where nothing is captured.** It leads from universally quantified
formulas only. If no letter of the source has two roles, and the terms of the target are bound where
those of the scope are, the target is true in every structure and under every valuation in which the
source is. -/
theorem holds_of_instantiation {room : Nat} {t : Formula} {s : Source} {others : List Source}
    (hroles : s.proposition.SeparatesRoles)
    (h : Rule.universalInstantiation.check room t (s :: others) = .ok true) :
    ∃ v f, s.proposition = .quantified .universal v f ∧
      (f.SameBinding t →
        ∀ (M : Structure) (e : M.Valuation), M.Holds e s.proposition → M.Holds e t) := by
  rw [Rule.check_universalInstantiation, Rule.allowsInstantiation_iff] at h
  obtain ⟨v, f, hsource, c, hsame⟩ := h
  refine ⟨v, f, hsource, fun hbinding M e hholds => ?_⟩
  rw [hsource] at hroles hholds
  exact holds_of_universal hroles.not_mem_scope hsame hbinding hholds

/-- From `Ax(F(x,x) -> Ex(G(x)))` to `F(a,a) -> Ea(G(a))`, where the second quantifier goes with its
variable. -/
theorem holds_of_instantiation_renamed_binder :
    let x : Letter := ⟨'x', rfl⟩
    let a : Letter := ⟨'a', rfl⟩
    let scope : Letter → Formula := fun b =>
      .binary .implies (.predicate ⟨'F', rfl⟩ (.ofLetter b) [.ofLetter b])
        (.quantified .existential b (.predicate ⟨'G', rfl⟩ (.ofLetter b) []))
    let source : Source := ⟨.quantified .universal x (scope x), .premise⟩
    source.proposition.SeparatesRoles ∧
      Rule.universalInstantiation.check 0 (scope a) [source] = .ok true ∧
      (scope x).SameBinding (scope a) ∧
      ∀ (M : Structure) (e : M.Valuation), M.Holds e source.proposition → M.Holds e (scope a) := by
  intro x a scope source
  have hroles : source.proposition.SeparatesRoles := by decide
  have hcheck : Rule.universalInstantiation.check 0 (scope a) [source] = .ok true := rfl
  have hbinding : (scope x).SameBinding (scope a) := by decide
  refine ⟨hroles, hcheck, hbinding, ?_⟩
  obtain ⟨v, f, hsource, hsound⟩ := holds_of_instantiation hroles hcheck
  cases hsource
  exact hsound hbinding

/-- Instantiation is not sound where a letter is captured: everything differs from something, but
nothing differs from itself. -/
theorem instantiation_captures :
    let x : Letter := ⟨'x', rfl⟩
    let y : Letter := ⟨'y', rfl⟩
    let F : Letter → Letter → Formula := fun a b =>
      .predicate ⟨'F', rfl⟩ (.ofLetter a) [.ofLetter b]
    let source : Formula := .quantified .universal x (.quantified .existential y (F x y))
    let target : Formula := .quantified .existential y (F y y)
    let M : Structure := ⟨Bool, fun _ ds => ds.Nodup, fun _ => True⟩
    let e : M.Valuation := fun _ => true
    source.SeparatesRoles ∧ target.SeparatesRoles ∧
      (∀ room, Rule.universalInstantiation.check room target [⟨source, .premise⟩] = .ok true) ∧
      M.Holds e source ∧ ¬ M.Holds e target := by
  intro x y F source target M e
  refine ⟨by decide, by decide, fun _ => rfl, ?_, ?_⟩
  · intro d
    refine ⟨!d, ?_⟩
    show [d, !d].Nodup
    cases d <;> decide
  · rintro ⟨d, hd⟩
    have hsame : [d, d].Nodup := hd
    simp at hsame

/-- **Instances of a scope without quantifiers mean what they should.** Instantiation leads from the
universally quantified formula to formulas that it entails, and generalization leads to the
existentially quantified formula from formulas that entail it. -/
theorem holds_of_quantifierFree {f : Formula} (hf : f.isQuantifierFree = true) {v : Letter}
    (hv : v ∉ f.variableLetters) (g : Formula) :
    (∀ (room : Nat) (rule : Rule) (others : List Source),
      Rule.universalInstantiation.check room g (⟨.quantified .universal v f, rule⟩ :: others) =
          .ok true →
        ∀ (M : Structure) (e : M.Valuation), M.Holds e (.quantified .universal v f) → M.Holds e g) ∧
    (Rule.generalizes (.quantified .existential v f) g = true →
      ∀ (M : Structure) (e : M.Valuation),
        M.Holds e g → M.Holds e (.quantified .existential v f)) := by
  have hbinding : ∀ {c : Letter}, g.same (f.rename v c) = true → f.SameBinding g := by
    intro c hsame
    have hrename := Formula.sameBinding_rename_of_isQuantifierFree hf v c
    exact hrename.trans (Formula.sameBinding_of_same hsame).symm
  constructor
  · intro room rule others h M e hholds
    obtain ⟨c, hsame⟩ := Rule.isInstance_chars_iff.1 (Rule.check_universalInstantiation.1 h)
    exact holds_of_universal hv hsame (hbinding hsame) hholds
  · intro h M e hholds
    obtain ⟨⟨c, hsame⟩, -⟩ := Rule.generalizes_quantified_iff.1 h
    exact holds_existential hv hsame (hbinding hsame) hholds

/-- The scope `F(x,a) -> ~G(x)`, with `x` itself and with `a` put for `x`; and the scope `p`, in
which there is no `x`. -/
theorem holds_of_quantifierFree_instances :
    let x : Letter := ⟨'x', rfl⟩
    let a : Letter := ⟨'a', rfl⟩
    let p : Formula := .atom ⟨'p', rfl⟩
    let scope : Letter → Formula := fun b =>
      .binary .implies (.predicate ⟨'F', rfl⟩ (.ofLetter b) [.ofLetter a])
        (.not (.predicate ⟨'G', rfl⟩ (.ofLetter b) []))
    let all : Formula → Source := fun f => ⟨.quantified .universal x f, .premise⟩
    (scope x).isQuantifierFree = true ∧ x ∉ (scope x).variableLetters ∧
      Rule.universalInstantiation.check 0 (scope x) [all (scope x)] = .ok true ∧
      Rule.generalizes (.quantified .existential x (scope x)) (scope a) = true ∧
      Rule.generalizes (.quantified .existential x p) p = true ∧
      ∀ (M : Structure) (e : M.Valuation),
        (M.Holds e (all (scope x)).proposition → M.Holds e (scope x)) ∧
        (M.Holds e (scope a) → M.Holds e (.quantified .existential x (scope x))) ∧
        (M.Holds e p → M.Holds e (.quantified .existential x p)) := by
  intro x a p scope all
  have hfree : (scope x).isQuantifierFree = true := rfl
  have hx : x ∉ (scope x).variableLetters := by decide
  have hp : x ∉ p.variableLetters := by decide
  have hself := (holds_of_quantifierFree hfree hx (scope x)).1 0 .premise [] rfl
  have hother := (holds_of_quantifierFree hfree hx (scope a)).2 rfl
  have hnone := (holds_of_quantifierFree (f := p) rfl hp p).2 rfl
  exact ⟨hfree, hx, rfl, rfl, rfl, fun M e => ⟨hself M e, hother M e, hnone M e⟩⟩

end Structure

end NaturalDeduction
