import NaturalDeduction.Formula.Equality

/-!
# Rules inside formulas

A simple rule relates two whole formulas, the target and the source. Lifted, it relates two formulas
that differ at one place, where the parts are related by the rule (`lift`). The place is found by
going down as long as both formulas have the same main operator and agree in all operands but one;
where both operands agree, the right one is tried first. Rules at several places are not found.

A lifted rule holds where the simple one does, and it goes through every operator (`lift_not`,
`lift_quantified`, `lift_left`, `lift_right`). There is no other way: to show something of the two
sides of a lifted rule is to show it of those of the simple rule and of one operator more
(`lift_induction`).

`visits` lists the pairs of parts to which the simple rule is put on the way, in order.
-/

namespace NaturalDeduction

/-- A relation between a target and a source that is checked at their main operators. -/
abbrev SimpleRule : Type := (target source : Formula) → Bool

/-- The rule at some place inside the formulas. -/
def lift (R : SimpleRule) (t s : Formula) : Bool :=
  R t s ||
    match t, s with
    | .not t, .not s => lift R t s
    | .quantified q v t, .quantified q' v' s => (q = q' && v = v') && lift R t s
    | .binary op tl tr, .binary op' sl sr =>
      op = op' && ((tl.same sl && lift R tr sr) || (tr.same sr && lift R tl sl))
    | _, _ => false

section

variable {R : SimpleRule} {t s : Formula}

/-- A rule can be used on the whole formula. -/
theorem lift_of_rule (h : R t s = true) : lift R t s = true := by
  unfold lift
  rw [h, Bool.true_or]

/-- A rule that can be used on a formula can be used under a negation. -/
theorem lift_not (h : lift R t s = true) : lift R (.not t) (.not s) = true := by
  unfold lift
  simp [h]

/-- A rule that can be used on a formula can be used under a quantifier. -/
theorem lift_quantified (q : Quantifier) (v : Letter) (h : lift R t s = true) :
    lift R (.quantified q v t) (.quantified q v s) = true := by
  unfold lift
  simp [h]

/-- A rule can be used on the right side, if the left sides are the same. -/
theorem lift_right (op : Connective) {l l' : Formula} (hl : l.same l' = true)
    (h : lift R t s = true) : lift R (.binary op l t) (.binary op l' s) = true := by
  unfold lift
  simp [hl, h]

/-- A rule can be used on the left side, if the right sides are the same. -/
theorem lift_left (op : Connective) {r r' : Formula} (hr : r.same r' = true)
    (h : lift R t s = true) : lift R (.binary op t r) (.binary op s r') = true := by
  unfold lift
  simp [hr, h]

end

/-- What holds of the two sides of a rule, and goes through every operator along one place, holds of
the two sides of the lifted rule. -/
theorem lift_induction {R : SimpleRule} {P : Formula → Formula → Prop}
    (simple : ∀ {t s}, R t s = true → P t s)
    (not : ∀ {t s}, P t s → P (.not t) (.not s))
    (quantified : ∀ {q v t s}, P t s → P (.quantified q v t) (.quantified q v s))
    (right : ∀ {op tl tr sl sr}, tl.same sl = true → P tr sr →
      P (.binary op tl tr) (.binary op sl sr))
    (left : ∀ {op tl tr sl sr}, tr.same sr = true → P tl sl →
      P (.binary op tl tr) (.binary op sl sr))
    {t s : Formula} (h : lift R t s = true) : P t s := by
  induction t generalizing s with
  | atom a =>
    unfold lift at h
    rw [Bool.or_false] at h
    exact simple h
  | predicate P t ts =>
    unfold lift at h
    rw [Bool.or_false] at h
    exact simple h
  | not t ih =>
    unfold lift at h
    rw [Bool.or_eq_true] at h
    rcases h with h | h
    · exact simple h
    · cases s with
      | not s => exact not (ih h)
      | _ => cases h
  | quantified q v t ih =>
    unfold lift at h
    rw [Bool.or_eq_true] at h
    rcases h with h | h
    · exact simple h
    · cases s with
      | quantified q' v' s =>
        simp only [Bool.and_eq_true, decide_eq_true_eq] at h
        obtain ⟨⟨rfl, rfl⟩, h⟩ := h
        exact quantified (ih h)
      | _ => cases h
  | binary op tl tr ihl ihr =>
    unfold lift at h
    rw [Bool.or_eq_true] at h
    rcases h with h | h
    · exact simple h
    · cases s with
      | binary op' sl sr =>
        simp only [Bool.and_eq_true, Bool.or_eq_true, decide_eq_true_eq] at h
        obtain ⟨rfl, ⟨hsame, h⟩ | ⟨hsame, h⟩⟩ := h
        · exact right hsame (ihr h)
        · exact left hsame (ihl h)
      | _ => cases h

/-- A pair of parts to which a rule is put, and how many operators stand above them. -/
structure Visit where
  /-- The number of operators above. -/
  level : Nat
  /-- The part of the target. -/
  target : Formula
  /-- The part of the source. -/
  source : Formula

/-- The pairs of parts to which the simple rule is put, until it holds. -/
def visits (R : SimpleRule) (level : Nat) (t s : Formula) : List Visit :=
  ⟨level, t, s⟩ ::
    if R t s then []
    else
      match t, s with
      | .not t, .not s => visits R (level + 1) t s
      | .quantified q v t, .quantified q' v' s =>
        if q = q' ∧ v = v' then visits R (level + 1) t s else []
      | .binary op tl tr, .binary op' sl sr =>
        if op = op' then
          let right := if tl.same sl then visits R (level + 1) tr sr else []
          if tl.same sl && lift R tr sr then right
          else if tr.same sr then right ++ visits R (level + 1) tl sl
          else right
        else []
      | _, _ => []

/-- Whether there is room for calls at all pairs of parts, from `level` operators downwards. -/
def fits (room : Nat) (R : SimpleRule) (level : Nat) (t s : Formula) : Bool :=
  (visits R level t s).all fun v => v.level < level + room

end NaturalDeduction
