import NaturalDeduction.Truth

/-!
# Truth tables

The columns of the truth table of a formula are its distinct subformulas outside the scopes of
quantifiers. Those without a truth function of their own come first, in the order of their canonical
forms (`Formula.tableAtoms`); the others follow by length and then by canonical form. The rows run
through all assignments of truth values to the first kind, truth before falsity.
-/

namespace NaturalDeduction

/-- The first of each group of items with one key, where the keys in `seen` have been met. -/
def keepFirst {α κ : Type} [BEq κ] (key : α → κ) (seen : List κ) : List α → List α
  | [] => []
  | x :: xs =>
    let k := key x
    if seen.contains k then keepFirst key seen xs else x :: keepFirst key (k :: seen) xs

namespace Formula

/-- The subformulas in the order in which they occur, the whole first. With `outside` the scopes of
quantifiers are left out. -/
def occurrences (outside : Bool) : Formula → List Formula
  | f@(atom _) => [f]
  | f@(predicate _ _ _) => [f]
  | f@(not g) => f :: g.occurrences outside
  | f@(binary _ l r) => f :: (l.occurrences outside ++ r.occurrences outside)
  | f@(quantified _ _ g) => if outside then [f] else f :: g.occurrences outside

/-- The subformulas, each once, in the order of their first occurrences. -/
def subformulas (outside : Bool) (f : Formula) : List Formula :=
  keepFirst canonical [] (f.occurrences outside)

/-- Whether a formula gets its truth value from outside: atomic and quantified formulas do. -/
def isTableAtom (f : Formula) : Bool :=
  f.isAtomic || f.isQuantified

/-- The order of canonical forms. -/
def canonicalLe (f g : Formula) : Bool :=
  decide (f.canonical ≤ g.canonical)

/-- The order by the length of the canonical form, and then by the form. -/
def lengthLe (f g : Formula) : Bool :=
  f.canonicalLength < g.canonicalLength ||
    (f.canonicalLength == g.canonicalLength && f.canonicalLe g)

/-- The subformulas whose truth values a row assigns, in order. -/
def tableAtoms (f : Formula) : List Formula :=
  ((f.subformulas true).filter isTableAtom).mergeSort canonicalLe

/-- The formulas at the heads of the columns. -/
def tableColumns (f : Formula) : List Formula :=
  let atoms := f.tableAtoms
  let others := (f.subformulas true).filter fun g => !atoms.any g.same
  atoms ++ others.mergeSort lengthLe

/-- The heads of the columns. -/
def tableHeaders (f : Formula) : List String :=
  f.tableColumns.map pretty

/-- The number of rows over `n` atoms, two to the power of `n`. -/
def rowCount (n : Nat) : Nat :=
  Nat.pow 2 n

/-- One more atom doubles the rows. -/
theorem rowCount_succ (n : Nat) : rowCount (n + 1) = rowCount n * 2 :=
  rfl

/-- The truth value of atom `i` of `n` in row `j`: the rows fall into as many blocks as there are
rows over `i` atoms, and in the first half of each block the atom is true. -/
def tableCell (n i j : Nat) : Bool :=
  let segment := rowCount n / rowCount i
  j % segment < segment / 2

/-- The truth values of `n` atoms in row `j`. -/
def tableRow (n j : Nat) : List Bool :=
  (List.range n).map fun i => tableCell n i j

/-- The assignment of a row to the atoms of a table. -/
def rowAssignment (atoms : List Formula) (row : List Bool) : Assignment :=
  .ofTable ((atoms.map canonical).zip (row.map .bool))

/-- The rows. With `partly` only the cells of the atoms are filled in. -/
def truthTable (f : Formula) (partly : Bool) : List (List (Option TruthValue)) :=
  let atoms := f.tableAtoms
  let others := f.tableColumns.drop atoms.length
  (List.range (rowCount atoms.length)).map fun j =>
    let row := tableRow atoms.length j
    let assignment := rowAssignment atoms row
    row.map (fun b => some (.ofBool b)) ++
      others.map fun g => if partly then none else some (g.evaluate assignment)

end Formula

end NaturalDeduction
