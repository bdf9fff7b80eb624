import NaturalDeduction.Proofs.Lifting
import NaturalDeduction.Proofs.Substitution

/-!
# Generalization inside formulas

Generalization leads from an instance to something weaker, and it is lifted to places inside
formulas like the rules of replacement, which lead to something equivalent. What then follows from
what depends on the place. Below a negation or to the left of a conditional the weaker formula makes
the whole stronger, and beside a biconditional it does neither (`Context.polarity`). A step from one
formula to another that it entails goes through a context forwards at a positive place and backwards
at a negative one (`Structure.carries_fill`, by one lemma for each operator).

With what instances mean (`Structure.holds_existential`) this gives
`Structure.holds_of_generalization`: every step by generalization has a place, and it is sound if
the place is positive and no letter is captured there; at a negative place its converse is. Neither
condition can be left out (`Structure.generalization_unsound`): the rule allows the step from
`~G(b)` to `~Ex(G(x))`, and that from `Ay(F(y,y))` to `Ex(Ay(F(x,y)))`.
-/

namespace NaturalDeduction

/-! ## Polarity -/

/-- Which way entailment at a place goes for the whole formula. -/
inductive Polarity where
  /-- The same way. -/
  | positive
  /-- The other way. -/
  | negative
  /-- Neither. -/
  | mixed
deriving DecidableEq

/-- The polarity below a negation. -/
def Polarity.reverse : Polarity → Polarity
  | positive => negative
  | negative => positive
  | mixed => mixed

/-- The polarity of a place on the left side of a connective. -/
def Connective.leftPolarity : Connective → Polarity → Polarity
  | .or, p => p
  | .and, p => p
  | .implies, p => p.reverse
  | .equivalent, _ => .mixed

/-- The polarity of a place on the right side of a connective. -/
def Connective.rightPolarity : Connective → Polarity → Polarity
  | .or, p => p
  | .and, p => p
  | .implies, p => p
  | .equivalent, _ => .mixed

/-- The polarity of the open place: it changes at each negation and on the left of each conditional,
and is lost in a biconditional. -/
def Context.polarity : Context → Polarity
  | hole => .positive
  | not C => C.polarity.reverse
  | quantified _ _ C => C.polarity
  | left op C _ => op.leftPolarity C.polarity
  | right op _ C => op.rightPolarity C.polarity

/-- The second proposition follows from the first, or the first from the second, as a polarity has
it. -/
def Polarity.Carries : Polarity → Prop → Prop → Prop
  | positive, P, Q => P → Q
  | negative, P, Q => Q → P
  | mixed, _, _ => True

namespace Polarity.Carries

variable {p : Polarity} {P Q : Prop}

/-- What keeps implications keeps the way they go. -/
theorem mono (φ : Prop → Prop) (hφ : ∀ {P Q : Prop}, (P → Q) → φ P → φ Q) (h : p.Carries P Q) :
    p.Carries (φ P) (φ Q) := by
  cases p with
  | positive => exact hφ h
  | negative => exact hφ h
  | mixed => trivial

/-- What turns implications around turns the way they go around. -/
theorem anti (φ : Prop → Prop) (hφ : ∀ {P Q : Prop}, (P → Q) → φ Q → φ P) (h : p.Carries P Q) :
    p.reverse.Carries (φ P) (φ Q) := by
  cases p with
  | positive => exact hφ h
  | negative => exact hφ h
  | mixed => trivial

/-- Below a negation entailment goes the other way. -/
protected theorem not (h : p.Carries P Q) : p.reverse.Carries (¬ P) (¬ Q) :=
  h.anti Not mt

/-- Entailment on the left of a connective goes as its polarity there. -/
protected theorem left (op : Connective) (R : Prop) (h : p.Carries P Q) :
    (op.leftPolarity p).Carries (op.Says P R) (op.Says Q R) := by
  cases op with
  | or => exact h.mono (· ∨ R) Or.imp_left
  | and => exact h.mono (· ∧ R) And.imp_left
  | implies => exact h.anti (· → R) fun hPQ hR hP => hR (hPQ hP)
  | equivalent => trivial

/-- Entailment on the right of a connective goes as its polarity there. -/
protected theorem right (op : Connective) (R : Prop) (h : p.Carries P Q) :
    (op.rightPolarity p).Carries (op.Says R P) (op.Says R Q) := by
  cases op with
  | or => exact h.mono (R ∨ ·) Or.imp_right
  | and => exact h.mono (R ∧ ·) And.imp_right
  | implies => exact h.mono (R → ·) fun hPQ hP hR => hPQ (hP hR)
  | equivalent => trivial

/-- Quantifiers keep the way that entailment goes. -/
protected theorem quantified (q : Quantifier) {α : Type} {P Q : α → Prop}
    (h : ∀ d, p.Carries (P d) (Q d)) : p.Carries (q.Says P) (q.Says Q) := by
  have hsays : ∀ {P Q : α → Prop}, (∀ d, P d → Q d) → q.Says P → q.Says Q := by
    intro P Q hPQ
    cases q with
    | existential => exact Exists.imp hPQ
    | universal => exact forall_imp hPQ
  cases p with
  | positive => exact hsays h
  | negative => exact hsays h
  | mixed => trivial

end Polarity.Carries

namespace Structure

variable {M : Structure}

/-- **Entailment goes through a context the way of its polarity.** -/
theorem carries_fill {f g : Formula} (h : ∀ e : M.Valuation, M.Holds e f → M.Holds e g)
    (C : Context) (e : M.Valuation) :
    C.polarity.Carries (M.Holds e (C.fill f)) (M.Holds e (C.fill g)) := by
  induction C generalizing e with
  | hole => exact h e
  | not C ih => exact (ih e).not
  | quantified q v C ih => exact .quantified q fun d => ih (e.set v d)
  | left op C r ih => exact (ih e).left op (M.Holds e r)
  | right op l C ih => exact (ih e).right op (M.Holds e l)

end Structure

/-! ## Roles of letters in parts -/

namespace Formula

/-- Cutting terms changes no propositional variable. -/
theorem variableLetters_cutTerms (f : Formula) :
    f.cutTerms.variableLetters = f.variableLetters := by
  induction f with
  | atom a => rfl
  | predicate P t ts => rfl
  | not f ih => exact ih
  | binary op l r ihl ihr => rw [cutTerms, variableLetters, ihl, ihr, variableLetters]
  | quantified q x f ih => exact ih

/-- Cutting terms changes no letter that stands for a thing. -/
theorem objectLetters_cutTerms (f : Formula) : f.cutTerms.objectLetters = f.objectLetters := by
  induction f with
  | atom a => rfl
  | predicate P t ts =>
    rw [cutTerms, objectLetters, termLetters_ofLetter]
    rfl
  | not f ih => exact ih
  | binary op l r ihl ihr => rw [cutTerms, objectLetters, ihl, ihr, objectLetters]
  | quantified q x f ih => rw [cutTerms, objectLetters, ih, objectLetters]

/-- Formulas that are the same have the same letters in both roles. -/
theorem SeparatesRoles.of_same {f g : Formula} (h : f.SeparatesRoles) (hsame : f.same g = true) :
    g.SeparatesRoles := by
  have hcut := same_iff_cutTerms_eq.1 hsame
  unfold SeparatesRoles at h ⊢
  rwa [← variableLetters_cutTerms, ← objectLetters_cutTerms, ← hcut, variableLetters_cutTerms,
    objectLetters_cutTerms]

/-- A part of a formula in which no letter has two roles is such a formula. -/
theorem SeparatesRoles.of_fill {C : Context} {f : Formula} (h : (C.fill f).SeparatesRoles) :
    f.SeparatesRoles := by
  induction C with
  | hole => exact h
  | not C ih => exact ih h
  | quantified q v C ih => exact ih fun a ha hb => h a ha (List.mem_cons_of_mem v hb)
  | left op C r ih =>
    exact ih fun a ha hb => h a (List.mem_append_left _ ha) (List.mem_append_left _ hb)
  | right op l C ih =>
    exact ih fun a ha hb => h a (List.mem_append_right _ ha) (List.mem_append_right _ hb)

end Formula

/-! ## Generalization -/

namespace Rule

/-- The target has `Ev(f)` at the open place of a context where the source has `g`, from which
`Ev(f)` is got by generalization. -/
structure GeneralizesAt (C : Context) (v : Letter) (f g target source : Formula) : Prop where
  /-- What the target is. -/
  target_same : target.same (C.fill (.quantified .existential v f)) = true
  /-- What the source is. -/
  source_same : source.same (C.fill g) = true
  /-- The rule at the open place. -/
  simple : generalizes (.quantified .existential v f) g = true

/-- A step is found valid only if the rule of generalization holds at some place. -/
theorem lift_generalizes_of_check {room : Nat} {t : Formula} {s : Source} {others : List Source}
    (h : existentialGeneralization.check room t (s :: others) = .ok true) :
    lift generalizes t s.proposition = true := by
  rw [check_of_simple? rfl, Procedure.withRoom_eq_ok_iff] at h
  exact h.2

/-- Every step by generalization has a place. -/
theorem exists_generalizesAt {t s : Formula} (h : lift generalizes t s = true) :
    ∃ C v f g, GeneralizesAt C v f g t s := by
  obtain ⟨C, a, g, ht, hs, hsimple⟩ := exists_fill_of_lift h
  obtain ⟨v, f, rfl, -⟩ := generalizes_iff.1 hsimple
  exact ⟨C, v, f, g, ht, hs, hsimple⟩

end Rule

namespace Structure

/-- At a place where nothing is captured, a step by generalization goes the way of the polarity. -/
theorem carries_of_generalizesAt {C : Context} {v : Letter} {f g t s : Formula}
    (hroles : t.SeparatesRoles) (hplace : Rule.GeneralizesAt C v f g t s)
    (hbinding : f.SameBinding g) (M : Structure) (e : M.Valuation) :
    C.polarity.Carries (M.Holds e s) (M.Holds e t) := by
  obtain ⟨ht, hs, hsimple⟩ := hplace
  obtain ⟨⟨c, hsame⟩, -⟩ := Rule.generalizes_quantified_iff.1 hsimple
  have hv : v ∉ f.variableLetters := (hroles.of_same ht).of_fill.not_mem_scope
  have hstep : ∀ e : M.Valuation, M.Holds e g → M.Holds e (.quantified .existential v f) :=
    fun e => holds_existential hv hsame hbinding
  have hsource : M.Holds e s ↔ M.Holds e (C.fill g) := (Reading.ofStructure M e).same_iff hs
  have htarget : M.Holds e t ↔ M.Holds e (C.fill (.quantified .existential v f)) :=
    (Reading.ofStructure M e).same_iff ht
  rw [hsource, htarget]
  exact carries_fill hstep C e

/-- **Generalization is sound at positive places where nothing is captured.** Where it leads from a
source to a target with no letter in two roles, they are one context with an instance and with the
quantified formula at its open place. At every such place where the terms of the instance are bound
as in the scope: if the place is positive, the target is true in every structure and under every
valuation in which the source is; and if it is negative, the source is where the target is. -/
theorem holds_of_generalization {room : Nat} {t : Formula} {s : Source} {others : List Source}
    (hroles : t.SeparatesRoles)
    (h : Rule.existentialGeneralization.check room t (s :: others) = .ok true) :
    (∃ C v f g, Rule.GeneralizesAt C v f g t s.proposition) ∧
      ∀ C v f g, Rule.GeneralizesAt C v f g t s.proposition → f.SameBinding g →
        (C.polarity = .positive →
          ∀ (M : Structure) (e : M.Valuation), M.Holds e s.proposition → M.Holds e t) ∧
        (C.polarity = .negative →
          ∀ (M : Structure) (e : M.Valuation), M.Holds e t → M.Holds e s.proposition) := by
  constructor
  · exact Rule.exists_generalizesAt (Rule.lift_generalizes_of_check h)
  · intro C v f g hplace hbinding
    have hcarries := carries_of_generalizesAt hroles hplace hbinding
    constructor
    · intro hpolarity M e
      have hforward := hcarries M e
      rwa [hpolarity] at hforward
    · intro hpolarity M e
      have hbackward := hcarries M e
      rwa [hpolarity] at hbackward

/-- From `p -> Ay(F(y,y))` to `p -> Ay(Ex(F(x,y)))`: the letter that is generalized is bound, but
outside of the place. -/
theorem holds_of_generalization_in_scope :
    let x : Letter := ⟨'x', rfl⟩
    let y : Letter := ⟨'y', rfl⟩
    let F : Letter → Letter → Formula := fun a b =>
      .predicate ⟨'F', rfl⟩ (.ofLetter a) [.ofLetter b]
    let C : Context := .right .implies (.atom ⟨'p', rfl⟩) (.quantified .universal y .hole)
    let target : Formula := C.fill (.quantified .existential x (F x y))
    let source : Source := ⟨C.fill (F y y), .premise⟩
    target.SeparatesRoles ∧
      Rule.existentialGeneralization.check 3 target [source] = .ok true ∧
      Rule.GeneralizesAt C x (F x y) (F y y) target source.proposition ∧
      (F x y).SameBinding (F y y) ∧ C.polarity = .positive ∧
      ∀ (M : Structure) (e : M.Valuation), M.Holds e source.proposition → M.Holds e target := by
  intro x y F C target source
  have hroles : target.SeparatesRoles := by decide
  have hcheck : Rule.existentialGeneralization.check 3 target [source] = .ok true := by rfl
  have hplace : Rule.GeneralizesAt C x (F x y) (F y y) target source.proposition :=
    ⟨Formula.same_refl _, Formula.same_refl _, by decide⟩
  have hbinding : (F x y).SameBinding (F y y) := by decide
  refine ⟨hroles, hcheck, hplace, hbinding, rfl, ?_⟩
  exact ((holds_of_generalization hroles hcheck).2 C x _ _ hplace hbinding).1 rfl

/-- Generalization is sound neither at a negative place nor where a letter is captured: something
that is not true of one thing may be true of another, and where everything equals itself there need
not be one thing that everything equals. -/
theorem generalization_unsound :
    let x : Letter := ⟨'x', rfl⟩
    let y : Letter := ⟨'y', rfl⟩
    let b : Letter := ⟨'b', rfl⟩
    let F : Letter → Letter → Formula := fun a b =>
      .predicate ⟨'F', rfl⟩ (.ofLetter a) [.ofLetter b]
    let G : Letter → Formula := fun a => .predicate ⟨'G', rfl⟩ (.ofLetter a) []
    let negated : Formula := .not (.quantified .existential x (G x))
    let captured : Formula := .quantified .existential x (.quantified .universal y (F x y))
    let M : Structure := ⟨Bool, fun _ ds => ds = [true], fun _ => True⟩
    let N : Structure := ⟨Bool, fun _ ds => ds.Pairwise (· = ·), fun _ => True⟩
    let e : Letter → Bool := fun _ => false
    (Formula.SeparatesRoles negated ∧ Formula.SeparatesRoles (.not (G b)) ∧
      (∀ room, Rule.existentialGeneralization.check (room + 2) negated [⟨.not (G b), .premise⟩] =
        .ok true) ∧
      M.Holds e (.not (G b)) ∧ ¬ M.Holds e negated) ∧
    (Formula.SeparatesRoles captured ∧
      Formula.SeparatesRoles (.quantified .universal y (F y y)) ∧
      (∀ room, Rule.existentialGeneralization.check (room + 1) captured
        [⟨.quantified .universal y (F y y), .premise⟩] = .ok true) ∧
      N.Holds e (.quantified .universal y (F y y)) ∧ ¬ N.Holds e captured) := by
  intro x y b F G negated captured M N e
  refine ⟨⟨by decide, by decide, fun _ => rfl, ?_, ?_⟩, by decide, by decide, fun _ => rfl, ?_, ?_⟩
  · intro hb
    have hfalse : [false] = [true] := hb
    cases hfalse
  · intro hnegated
    exact hnegated ⟨true, rfl⟩
  · intro d
    show [d, d].Pairwise (· = ·)
    simp
  · rintro ⟨d, hd⟩
    have hother : [d, !d].Pairwise (· = ·) := hd (!d)
    cases d <;> simp at hother

end Structure

end NaturalDeduction
