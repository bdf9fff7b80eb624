import NaturalDeduction.Proof.Basic

/-!
# What a line rests on

The assumptions of a line, said without any computation: an assumption rests on itself, and every
other line that does not discharge rests on what the earlier lines rest on that it cites
(`Proof.RestsOn`). Only whole numbers cite, and only earlier lines; other citations count for
nothing.

A line rests only on assumptions among the lines up to it (`RestsOn.assumption_le`).
-/

namespace NaturalDeduction.Proof

/-- The line with a given number, counted from one. -/
def lineNumbered? (lines : List Line) (n : Nat) : Option Line :=
  match n with
  | 0 => none
  | i + 1 => lines[i]?

/-- Whether line `j` is an earlier line that line `i` cites. -/
def Cites (lines : List Line) (i j : Nat) : Prop :=
  ∃ l, lineNumbered? lines i = some l ∧ 1 ≤ j ∧ j < i ∧
    ∃ c ∈ l.citations, c.toInt? = some (j : Int)

/-- Whether line `i` rests on the assumption on line `j`. -/
inductive RestsOn (lines : List Line) : (i j : Nat) → Prop
  /-- An assumption rests on itself. -/
  | itself {i : Nat} {l : Line} (hl : lineNumbered? lines i = some l)
      (hr : l.rule = .assumption) : RestsOn lines i i
  /-- Other lines rest on what they cite. -/
  | cited {i j k : Nat} {l : Line} (hl : lineNumbered? lines i = some l)
      (ha : l.rule ≠ .assumption) (hr : l.rule.restsOnNothing = false) (hc : Cites lines i j)
      (h : RestsOn lines j k) : RestsOn lines i k

/-- What a line rests on is an assumption, on this line or an earlier one. -/
theorem RestsOn.assumption_le {lines : List Line} {i j : Nat} (h : RestsOn lines i j) :
    j ≤ i ∧ ∃ l, lineNumbered? lines j = some l ∧ l.rule = .assumption := by
  induction h with
  | itself hl hr => exact ⟨Nat.le_refl _, _, hl, hr⟩
  | cited hl ha hr hc h ih =>
    obtain ⟨_, _, _, hlt, _⟩ := hc
    exact ⟨Nat.le_trans ih.1 (Nat.le_of_lt hlt), ih.2⟩

end NaturalDeduction.Proof
