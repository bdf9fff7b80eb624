import NaturalDeduction.Formula.Basic

/-!
# Deciding satisfiability

A solver has Boolean expressions over names, which are made by functions that keep truth values, and
it decides which of them are satisfiable (`Solver`). This is all that is asked of it. One is given
here: the satisfiability of a `BoolExpr` is decided by cases on one name after the other, each time
with all constants worked off (`BoolExpr.satisfiable`).

The search finds truth values that make an expression true if there are any
(`BoolExpr.satisfiable_iff`). A name that has got its value does not occur any more
(`BoolExpr.mem_names_assign`), so at the end no name is left and the value of the expression is
settled.
-/

namespace NaturalDeduction

/-- The two-valued truth function of a connective. -/
def Connective.apply : Connective → Bool → Bool → Bool
  | .or, p, q => p || q
  | .and, p, q => p && q
  | .implies, p, q => !p || q
  | .equivalent, p, q => p == q

/-- Boolean expressions whose satisfiability is decided. -/
structure Solver where
  /-- The expressions. -/
  Expr : Type
  /-- The value of an expression when the names have the values `v`. -/
  eval : (v : String → Bool) → Expr → Bool
  /-- A name. -/
  name : String → Expr
  /-- A negation. -/
  not : Expr → Expr
  /-- Two expressions joined by a connective. -/
  binary : Connective → Expr → Expr → Expr
  /-- The conjunction of expressions. -/
  all : List Expr → Expr
  /-- Whether some truth values make an expression true. -/
  satisfiable : Expr → Bool
  /-- A name has its value. -/
  eval_name : ∀ v s, eval v (name s) = v s
  /-- Negation exchanges truth and falsity. -/
  eval_not : ∀ v e, eval v (not e) = !eval v e
  /-- Connectives are truth functions. -/
  eval_binary : ∀ v op l r, eval v (binary op l r) = op.apply (eval v l) (eval v r)
  /-- A conjunction is true if all its parts are. -/
  eval_all : ∀ v es, eval v (all es) = es.all (eval v)
  /-- Satisfiability is decided. -/
  satisfiable_iff : ∀ e, satisfiable e = true ↔ ∃ v, eval v e = true

/-- Boolean expressions over names. -/
inductive BoolExpr where
  /-- Truth or falsity. -/
  | const (b : Bool)
  /-- The truth value of a name. -/
  | name (s : String)
  /-- A negation. -/
  | not (e : BoolExpr)
  /-- Two expressions joined by a connective. -/
  | binary (op : Connective) (l r : BoolExpr)
deriving DecidableEq

namespace BoolExpr

/-- The value of an expression when the names have the values `v`. -/
def eval (v : String → Bool) : BoolExpr → Bool
  | const b => b
  | name s => v s
  | not e => !e.eval v
  | binary op l r => op.apply (l.eval v) (r.eval v)

/-- The names in an expression, in order and as often as they occur. -/
def names : BoolExpr → List String
  | const _ => []
  | name s => [s]
  | not e => e.names
  | binary _ l r => l.names ++ r.names

/-- The negation of an expression, worked off if it is a constant. -/
def makeNot : BoolExpr → BoolExpr
  | const b => const !b
  | e => not e

/-- A connective after its left side is known. -/
def applyLeft : Connective → Bool → BoolExpr → BoolExpr
  | .or, true, _ => const true
  | .or, false, e => e
  | .and, true, e => e
  | .and, false, _ => const false
  | .implies, true, e => e
  | .implies, false, _ => const true
  | .equivalent, true, e => e
  | .equivalent, false, e => makeNot e

/-- A connective after its right side is known. -/
def applyRight : Connective → BoolExpr → Bool → BoolExpr
  | .or, _, true => const true
  | .or, e, false => e
  | .and, e, true => e
  | .and, _, false => const false
  | .implies, _, true => const true
  | .implies, e, false => makeNot e
  | .equivalent, e, true => e
  | .equivalent, e, false => makeNot e

/-- Two expressions joined by a connective, worked off if one of them is a constant. -/
def makeBinary (op : Connective) (l r : BoolExpr) : BoolExpr :=
  match l, r with
  | const b, r => applyLeft op b r
  | l, const b => applyRight op l b
  | l, r => binary op l r

/-- The expression with a truth value in place of a name. -/
def assign (s : String) (b : Bool) : BoolExpr → BoolExpr
  | const c => const c
  | name t => if t = s then const b else name t
  | not e => makeNot (e.assign s b)
  | binary op l r => makeBinary op (l.assign s b) (r.assign s b)

/-- Whether truth values of the listed names, the others being false, make an expression true. -/
def satisfiableOver : List String → BoolExpr → Bool
  | _, const b => b
  | [], e => e.eval fun _ => false
  | s :: names, e =>
    satisfiableOver names (e.assign s true) || satisfiableOver names (e.assign s false)

/-- Whether some truth values make an expression true. -/
def satisfiable (e : BoolExpr) : Bool :=
  satisfiableOver e.names.eraseDups e

/-- The conjunction of expressions. -/
def all : List BoolExpr → BoolExpr
  | [] => const true
  | e :: es => binary .and e (all es)

/-- A negation that has been worked off has the value of the negation. -/
theorem eval_makeNot (v : String → Bool) (e : BoolExpr) : (makeNot e).eval v = !e.eval v := by
  cases e <;> rfl

/-- A connective with a known left side has the value of the whole. -/
theorem eval_applyLeft (v : String → Bool) (op : Connective) (b : Bool) (e : BoolExpr) :
    (applyLeft op b e).eval v = op.apply b (e.eval v) := by
  cases op <;> cases b <;> simp [applyLeft, eval, Connective.apply, eval_makeNot]

/-- A connective with a known right side has the value of the whole. -/
theorem eval_applyRight (v : String → Bool) (op : Connective) (e : BoolExpr) (b : Bool) :
    (applyRight op e b).eval v = op.apply (e.eval v) b := by
  cases op <;> cases b <;> simp [applyRight, eval, Connective.apply, eval_makeNot]

/-- Two joined expressions have the value that the connective gives to theirs. -/
theorem eval_makeBinary (v : String → Bool) (op : Connective) (l r : BoolExpr) :
    (makeBinary op l r).eval v = op.apply (l.eval v) (r.eval v) := by
  unfold makeBinary
  split
  · rw [eval_applyLeft]; rfl
  · rw [eval_applyRight]; rfl
  · rfl

/-- Putting in a truth value for a name is evaluation with that value. -/
theorem eval_assign (v : String → Bool) (s : String) (b : Bool) (e : BoolExpr) :
    (e.assign s b).eval v = e.eval fun t => if t = s then b else v t := by
  induction e with
  | const c => rfl
  | name t => by_cases h : t = s <;> simp [assign, eval, h]
  | not e ih => simp [assign, eval, eval_makeNot, ih]
  | binary op l r ihl ihr => simp [assign, eval, eval_makeBinary, ihl, ihr]

/-- The value of an expression depends on its names alone. -/
theorem eval_congr {v w : String → Bool} {e : BoolExpr} (h : ∀ s ∈ e.names, v s = w s) :
    e.eval v = e.eval w := by
  induction e with
  | const b => rfl
  | name s => exact h s List.mem_cons_self
  | not e ih => simp only [eval, ih h]
  | binary op l r ihl ihr =>
    have hl := ihl fun s hs => h s (List.mem_append_left _ hs)
    have hr := ihr fun s hs => h s (List.mem_append_right _ hs)
    simp only [eval, hl, hr]

/-! ## Names that are left -/

/-- Negation keeps the names. -/
theorem names_makeNot (e : BoolExpr) : (makeNot e).names = e.names := by
  cases e <;> rfl

/-- No name is new after the left side is known. -/
theorem mem_names_applyLeft {op : Connective} {b : Bool} {e : BoolExpr} {s : String}
    (h : s ∈ (applyLeft op b e).names) : s ∈ e.names := by
  cases op <;> cases b <;> simp_all [applyLeft, names, names_makeNot]

/-- No name is new after the right side is known. -/
theorem mem_names_applyRight {op : Connective} {b : Bool} {e : BoolExpr} {s : String}
    (h : s ∈ (applyRight op e b).names) : s ∈ e.names := by
  cases op <;> cases b <;> simp_all [applyRight, names, names_makeNot]

/-- The names of two joined expressions are names of one of them. -/
theorem mem_names_makeBinary {op : Connective} {l r : BoolExpr} {s : String}
    (h : s ∈ (makeBinary op l r).names) : s ∈ l.names ∨ s ∈ r.names := by
  unfold makeBinary at h
  split at h
  · exact .inr (mem_names_applyLeft h)
  · exact .inl (mem_names_applyRight h)
  · exact List.mem_append.1 h

/-- A name that has got its value is gone, and no name is new. -/
theorem mem_names_assign {s t : String} {b : Bool} {e : BoolExpr}
    (h : t ∈ (e.assign s b).names) : t ∈ e.names ∧ t ≠ s := by
  induction e with
  | const c => cases h
  | name u =>
    simp only [assign] at h
    split at h
    · cases h
    · next hu =>
      have ht : t = u := List.mem_singleton.1 h
      exact ⟨h, ht ▸ hu⟩
  | not e ih =>
    rw [assign, names_makeNot] at h
    exact ih h
  | binary op l r ihl ihr =>
    rcases mem_names_makeBinary h with hl | hr
    · obtain ⟨hmem, hne⟩ := ihl hl
      exact ⟨List.mem_append_left _ hmem, hne⟩
    · obtain ⟨hmem, hne⟩ := ihr hr
      exact ⟨List.mem_append_right _ hmem, hne⟩

/-! ## The search -/

/-- An expression is true somewhere if it is with one of the two values of a name. -/
theorem exists_eval_iff_assign (s : String) (e : BoolExpr) :
    (∃ v, e.eval v = true) ↔
      (∃ v, (e.assign s true).eval v = true) ∨ ∃ v, (e.assign s false).eval v = true := by
  constructor
  · rintro ⟨v, hv⟩
    have hset : (fun t => if t = s then v s else v t) = v := by
      funext t
      by_cases ht : t = s <;> simp [ht]
    have hassign : (e.assign s (v s)).eval v = true := by
      rw [eval_assign, hset]
      exact hv
    cases hs : v s with
    | true => exact .inl ⟨v, hs ▸ hassign⟩
    | false => exact .inr ⟨v, hs ▸ hassign⟩
  · rintro (⟨v, hv⟩ | ⟨v, hv⟩) <;> (rw [eval_assign] at hv; exact ⟨_, hv⟩)

/-- The search over names that include those of the expression finds truth values if there are
any. -/
theorem satisfiableOver_iff {names : List String} {e : BoolExpr}
    (h : ∀ s ∈ e.names, s ∈ names) :
    satisfiableOver names e = true ↔ ∃ v, e.eval v = true := by
  induction names generalizing e with
  | nil =>
    have hnone : ∀ v : String → Bool, e.eval v = e.eval fun _ => false :=
      fun v => eval_congr fun s hs => absurd (h s hs) List.not_mem_nil
    have heq : satisfiableOver [] e = e.eval fun _ => false := by
      cases e <;> rfl
    rw [heq]
    exact ⟨fun htrue => ⟨_, htrue⟩, fun ⟨v, hv⟩ => by rw [← hnone v]; exact hv⟩
  | cons s names ih =>
    have hassign : ∀ b t, t ∈ (e.assign s b).names → t ∈ names := by
      intro b t ht
      obtain ⟨hmem, hne⟩ := mem_names_assign ht
      exact (List.mem_cons.1 (h t hmem)).resolve_left hne
    have hstep : satisfiableOver (s :: names) e =
        (satisfiableOver names (e.assign s true) || satisfiableOver names (e.assign s false)) := by
      cases e with
      | const b => cases names <;> simp [satisfiableOver, assign]
      | _ => rfl
    rw [hstep, Bool.or_eq_true, ih (hassign true), ih (hassign false)]
    exact (exists_eval_iff_assign s e).symm

/-- **Satisfiability is decided.** -/
theorem satisfiable_iff (e : BoolExpr) : e.satisfiable = true ↔ ∃ v, e.eval v = true :=
  satisfiableOver_iff fun _ hs => List.mem_eraseDups.2 hs

/-- The conjunction of expressions is true if all of them are. -/
theorem eval_all (v : String → Bool) (es : List BoolExpr) : (all es).eval v = es.all (eval v) := by
  induction es with
  | nil => rfl
  | cons e es ih =>
    rw [all, eval, ih]
    rfl

end BoolExpr

/-- The solver that searches through the truth values of the names. -/
def Solver.search : Solver where
  Expr := BoolExpr
  eval := BoolExpr.eval
  name := .name
  not := .not
  binary := .binary
  all := BoolExpr.all
  satisfiable := BoolExpr.satisfiable
  eval_name _ _ := rfl
  eval_not _ _ := rfl
  eval_binary _ _ _ _ := rfl
  eval_all := BoolExpr.eval_all
  satisfiable_iff := BoolExpr.satisfiable_iff

end NaturalDeduction
