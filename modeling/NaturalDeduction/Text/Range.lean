/-!
# Classes of characters by ranges

A class of characters beyond the first 128 is given by the ranges of their code points, in
increasing order. `inRanges` looks a code point up by halving.
-/

namespace NaturalDeduction.Text

/-- Whether `n` lies in one of the ranges from `lo` up to but not including `hi`, which are in
increasing order; `steps` bounds the number of halvings. -/
def inRanges (table : Array (Nat × Nat)) (n : Nat) : (steps lo hi : Nat) → Bool
  | 0, _, _ => false
  | steps + 1, lo, hi =>
    if hi ≤ lo then false
    else
      let mid := (lo + hi) / 2
      match table[mid]? with
      | none => false
      | some (first, last) =>
        if n < first then inRanges table n steps lo mid
        else if last < n then inRanges table n steps (mid + 1) hi
        else true

/-- Whether a code point lies in one of the ranges of a table. -/
def isIn (table : Array (Nat × Nat)) (n : Nat) : Bool :=
  inRanges table n 32 0 table.size

end NaturalDeduction.Text
