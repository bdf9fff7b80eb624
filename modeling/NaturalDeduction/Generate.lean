import NaturalDeduction.Formula.Construct

/-!
# Random formulas

A random formula of bounded nesting is drawn from a source of chance, which gives fractions and
choices one after the other (`Chance`). At each place where an operator may still stand, a fraction
below one quarter stops with a variable; otherwise the operator is chosen, and then its operands are
drawn from left to right. What is drawn is counted (`Tally`).

The variables come by name, and a name that is no letter is a fault only if it is drawn.
-/

namespace NaturalDeduction

/-- A source of chance: the fractions and the choices that it gives, by their numbers. A choice
among `n` things takes the remainder by `n`. -/
structure Chance where
  /-- The fractions. -/
  fraction : Nat → Binary64
  /-- The choices. -/
  choice : Nat → Int

namespace Chance

/-- Whether the fraction with a number is below one quarter. -/
def stops (chance : Chance) (n : Nat) : Bool :=
  (chance.fraction n).extent.lt (.quotient 1 4)

/-- The choice with a number among `count` things. -/
def pick (chance : Chance) (n count : Nat) : Nat :=
  (chance.choice n % (count : Int)).toNat

/-- What is picked is one of the things, if there are any. -/
theorem pick_lt (chance : Chance) (n : Nat) {count : Nat} (h : 0 < count) :
    chance.pick n count < count := by
  have hpos : (0 : Int) < count := by omega
  have h0 := Int.emod_nonneg (chance.choice n) (b := (count : Int)) (by omega)
  have h1 := Int.emod_lt_of_pos (chance.choice n) hpos
  unfold pick
  omega

end Chance

/-- How much has been drawn. -/
structure Tally where
  /-- The number of fractions. -/
  fractions : Nat
  /-- The number of choices. -/
  choices : Nat
deriving DecidableEq

/-- The operators among which a random formula chooses: negation and the connectives. -/
def randomOperators : List (Option Connective) :=
  [none, some .and, some .or, some .implies, some .equivalent]

namespace Formula

/-- One of the variables, chosen. -/
def drawAtom (chance : Chance) (first : Except Error Formula)
    (others : List (Except Error Formula)) (t : Tally) : Except Error (Formula × Tally) := do
  let names := first :: others
  let f ← names.getD (chance.pick t.choices names.length) first
  .ok (f, { t with choices := t.choices + 1 })

/-- A formula with operators nested at most so deep, over at least one variable. -/
def draw (chance : Chance) (first : Except Error Formula) (others : List (Except Error Formula)) :
    (depth : Nat) → Tally → Except Error (Formula × Tally)
  | 0, t => drawAtom chance first others t
  | depth + 1, t =>
    let stop := chance.stops t.fractions
    let t := { t with fractions := t.fractions + 1 }
    if stop then drawAtom chance first others t
    else
      let op := randomOperators.getD (chance.pick t.choices randomOperators.length) none
      let t := { t with choices := t.choices + 1 }
      match op with
      | none => do
        let (f, t) ← draw chance first others depth t
        .ok (.not f, t)
      | some op => do
        let (l, t) ← draw chance first others depth t
        let (r, t) ← draw chance first others depth t
        .ok (.binary op l r, t)

/-- A random formula over variables with given names, with what was drawn for it. -/
def random (chance : Chance) (depth : Nat) (names : List Value) :
    Except Error (Formula × Tally) :=
  match names.map atomOf with
  | [] => .error .noVariables
  | first :: others => draw chance first others depth ⟨0, 0⟩

/-- How deep operators may be nested when a bound is never met exactly, because it is not a whole
number. This one is made up: it stands for the calls that fit on the stack of an interpreter, if
chance does not end the drawing before. -/
def endlessDepth : Nat := 900

/-- The nesting that a bound admits. -/
def depthOf (e : Extent) : Nat :=
  match e.floor? with
  | some n => if e.same (.ofInt n) then n.toNat else endlessDepth
  | none => endlessDepth

/-- A random formula for a depth and names that come as values: the names as the characters of a
text or the items of a list. -/
def randomOf (chance : Chance) (depth names : Value) : Except Error (Formula × Tally) :=
  match depth.extent? with
  | none => .error .wrongKind
  | some e =>
    if e.lt (.ofInt 0) then .error (.negativeDepth depth)
    else if names.isFalsy then .error .noVariables
    else
      match names with
      | .record _ => .error .wrongKind
      | v =>
        match v.items? with
        | some items => random chance (depthOf e) items
        | none => .error .wrongKind

end Formula

end NaturalDeduction
