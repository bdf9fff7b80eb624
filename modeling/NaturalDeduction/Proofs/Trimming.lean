import Mathlib.Order.Bounds.Defs
import NaturalDeduction.Proofs.Splitting

/-!
# Which parentheses trimming takes off

Trimming works from the outside: as long as the first and the last character are parentheses and
the first one stays open in between, it takes the two off. Which parentheses belong together is a
matter of counts in the whole text (`Partners`). What connects the two is balance. A text is
balanced exactly if no part from its front closes more than it opens and the whole opens as many as
it closes (`balanced_iff`), and two parentheses are partners exactly if the text between them is
balanced (`partners_iff`).

What is taken off is a number of pairs around what is left (`exists_inPairs_trimOuter`), and what is
left is not a balanced text in parentheses (`trimOuter_ne_enclosed`). So the pairs of a balanced
text that come off are partners, and there are no partners next to them inside
(`isGreatest_inPairs`).

**Main result** (`trimOuter_removes_enclosing_pairs`): as many pairs come off as enclose the whole
text, and trimming again takes off nothing. That they are partners needs balance: `((p)` loses a
pair too, though its first parenthesis is never closed.
-/

namespace NaturalDeduction

/-! ## Balance as a count -/

/-- What is opened and not closed in two parts adds up. -/
theorem surplus_append (s t : List Char) : surplus (s ++ t) = surplus s + surplus t := by
  simp only [surplus, List.count_append]
  omega

/-- A condition on all parts from the front, after the first character has been read. -/
theorem forall_surplus_take_cons {n : Nat} {c : Char} {s : List Char} :
    (∀ m, 0 ≤ n + surplus ((c :: s).take m)) ↔ ∀ m, 0 ≤ n + turn c + surplus (s.take m) := by
  constructor
  · intro h m
    have hm := h (m + 1)
    rwa [List.take_succ_cons, surplus_cons, ← Int.add_assoc] at hm
  · rintro h (_ | m)
    · simp
    · rw [List.take_succ_cons, surplus_cons, ← Int.add_assoc]
      exact h m

/-- With `n` parentheses open at the front, every parenthesis has its partner exactly if no part
from the front closes more than are open and none is open at the end. -/
theorem balancedFrom_iff {n : Nat} {s : List Char} :
    balancedFrom n s = true ↔ (∀ m, 0 ≤ n + surplus (s.take m)) ∧ n + surplus s = 0 := by
  induction s generalizing n with
  | nil => simp [balancedFrom]
  | cons c s ih =>
    rw [forall_surplus_take_cons, surplus_cons, ← Int.add_assoc]
    by_cases ho : c = '('
    · subst ho
      have hturn : turn '(' = 1 := rfl
      rw [balancedFrom_open, ih, hturn, Int.natCast_succ]
    · by_cases hc : c = ')'
      · subst hc
        have hturn : turn ')' = -1 := rfl
        rw [hturn]
        cases n with
        | zero =>
          -- the count falls below zero at once
          refine iff_of_false (by simp) ?_
          rintro ⟨hfront, -⟩
          have := hfront 0
          simp at this
        | succ n =>
          have hn : ((n + 1 : Nat) : Int) + -1 = n := by omega
          rw [balancedFrom_close, ih, hn]
      · have hturn : turn c = 0 := by simp [turn, ho, hc]
        rw [balancedFrom_other ho hc, ih, hturn, Int.add_zero]

/-- **Balance is a matter of counts**: no part from the front closes more parentheses than it opens,
and the whole opens as many as it closes. -/
theorem balanced_iff {s : List Char} :
    balanced s = true ↔ (∀ m, 0 ≤ surplus (s.take m)) ∧ surplus s = 0 := by
  rw [balanced, balancedFrom_iff]
  simp only [Int.natCast_zero, Int.zero_add]

/-! ## Partners -/

/-- The parenthesis at position `j` of a text closes the one at position `i`: it is the first place
at which as few are open again as before `i`. -/
structure Partners (s : List Char) (i j : Nat) : Prop where
  opens : s[i]? = some '('
  closes : s[j]? = some ')'
  lt : i < j
  /-- Up to `j` the parenthesis at `i` is open. -/
  staysOpen : ∀ m, i < m → m ≤ j → surplus (s.take i) < surplus (s.take m)
  /-- Behind `j` it is closed. -/
  returns : surplus (s.take (j + 1)) = surplus (s.take i)

/-- A text with a character at a position is cut there. -/
theorem exists_append_of_getElem? {s : List Char} {i : Nat} {c : Char} (h : s[i]? = some c) :
    ∃ before after, s = before ++ c :: after ∧ before.length = i := by
  obtain ⟨hi, rfl⟩ := List.getElem?_eq_some_iff.1 h
  refine ⟨s.take i, s.drop (i + 1), ?_, List.length_take_of_le (Nat.le_of_lt hi)⟩
  rw [← List.drop_eq_getElem_cons hi, List.take_append_drop]

section Between

variable (before inner after : List Char)

/-- A part that ends between two parentheses. -/
theorem surplus_take_between {m : Nat} (h : m ≤ inner.length) :
    surplus ((before ++ '(' :: (inner ++ ')' :: after)).take (before.length + (m + 1))) =
      surplus before + 1 + surplus (inner.take m) := by
  rw [List.take_length_add_append, List.take_succ_cons, List.take_append_of_le_length h,
    surplus_append, surplus_cons, ← Int.add_assoc]
  rfl

/-- The part that ends behind the second of two parentheses. -/
theorem surplus_take_behind :
    surplus ((before ++ '(' :: (inner ++ ')' :: after)).take
      (before.length + inner.length + 1 + 1)) = surplus before + surplus inner := by
  have hlength : before.length + inner.length + 1 + 1 = before.length + (inner.length + 1 + 1) := by
    omega
  have hclose : surplus [')'] = -1 := rfl
  have hopen : turn '(' = 1 := rfl
  rw [hlength, List.take_length_add_append, List.take_succ_cons, List.take_length_add_append,
    List.take_succ_cons, List.take_zero, surplus_append, surplus_cons, surplus_append, hclose,
    hopen]
  omega

/-- Two parentheses are partners exactly if what stands between them is balanced. -/
theorem partners_append_iff :
    Partners (before ++ '(' :: (inner ++ ')' :: after)) before.length
      (before.length + inner.length + 1) ↔ balanced inner = true := by
  have hfront : surplus ((before ++ '(' :: (inner ++ ')' :: after)).take before.length) =
      surplus before := by
    rw [List.take_left]
  have hbehind := surplus_take_behind before inner after
  rw [balanced_iff]
  constructor
  · intro h
    have hzero : surplus inner = 0 := by
      have := h.returns
      omega
    refine ⟨fun m => ?_, hzero⟩
    by_cases hm : m ≤ inner.length
    · have hopen := h.staysOpen (before.length + (m + 1)) (by omega) (by omega)
      rw [surplus_take_between before inner after hm] at hopen
      omega
    · rw [List.take_of_length_le (by omega)]
      omega
  · rintro ⟨hfronts, hzero⟩
    refine { opens := by simp, closes := ?_, lt := by omega, staysOpen := ?_, returns := by omega }
    · rw [Nat.add_assoc, List.getElem?_append_right (Nat.le_add_right _ _), Nat.add_sub_cancel_left,
        List.getElem?_cons_succ, List.getElem?_append_right (Nat.le_refl _), Nat.sub_self]
      rfl
    · intro m hlt hle
      obtain ⟨p, rfl⟩ : ∃ p, m = before.length + (p + 1) := ⟨m - before.length - 1, by omega⟩
      rw [surplus_take_between before inner after (by omega), hfront]
      have := hfronts p
      omega

end Between

/-- **Partners enclose a balanced text**, and nothing else is needed. -/
theorem partners_iff {s : List Char} {i j : Nat} :
    Partners s i j ↔ ∃ before inner after, s = before ++ '(' :: (inner ++ ')' :: after) ∧
      before.length = i ∧ before.length + inner.length + 1 = j ∧ balanced inner = true := by
  constructor
  · intro h
    obtain ⟨before, rest, rfl, rfl⟩ := exists_append_of_getElem? h.opens
    have hlt := h.lt
    have hclose : rest[j - before.length - 1]? = some ')' := by
      have hj : j - before.length = j - before.length - 1 + 1 := by omega
      have hcloses := h.closes
      rwa [List.getElem?_append_right (Nat.le_of_lt hlt), hj, List.getElem?_cons_succ] at hcloses
    obtain ⟨inner, after, rfl, hinner⟩ := exists_append_of_getElem? hclose
    obtain rfl : before.length + inner.length + 1 = j := by omega
    exact ⟨before, inner, after, rfl, rfl, rfl, (partners_append_iff before inner after).1 h⟩
  · rintro ⟨before, inner, after, rfl, rfl, rfl, hbalanced⟩
    exact (partners_append_iff before inner after).2 hbalanced

/-! ## A text in pairs -/

/-- A text in `k` pairs of parentheses. -/
def inPairs (k : Nat) (s : List Char) : List Char :=
  List.replicate k '(' ++ s ++ List.replicate k ')'

/-- Each pair of parentheses adds two characters. -/
@[simp] theorem length_inPairs (k : Nat) (s : List Char) :
    (inPairs k s).length = s.length + 2 * k := by
  simp only [inPairs, List.length_append, List.length_replicate]
  omega

/-- Without any pair the text is the text. -/
@[simp] theorem inPairs_zero (s : List Char) : inPairs 0 s = s := by
  simp [inPairs]

/-- The outermost pair. -/
theorem inPairs_succ (k : Nat) (s : List Char) :
    inPairs (k + 1) s = '(' :: (inPairs k s ++ [')']) := by
  simp [inPairs, List.replicate_succ, ← List.replicate_succ']

/-- Pairs around pairs are so many pairs together. -/
theorem inPairs_inPairs (j k : Nat) (s : List Char) :
    inPairs j (inPairs k s) = inPairs (j + k) s := by
  induction j with
  | zero => simp
  | succ j ih => rw [inPairs_succ, ih, Nat.succ_add, inPairs_succ]

/-- A balanced text stays balanced in pairs of parentheses. -/
theorem balanced_inPairs {s : List Char} (h : balanced s = true) (k : Nat) :
    balanced (inPairs k s) = true := by
  induction k with
  | zero => rwa [inPairs_zero]
  | succ k ih =>
    rw [inPairs_succ]
    exact Grammar.balanced_enclosed ih

/-- Inside of `k` pairs, the first and the last character of a text are partners exactly if they are
parentheses around a balanced text. -/
theorem partners_inPairs_iff {k : Nat} {s : List Char} :
    Partners (inPairs k s) k ((inPairs k s).length - 1 - k) ↔
      ∃ t, s = '(' :: (t ++ [')']) ∧ balanced t = true := by
  rw [partners_iff]
  constructor
  · rintro ⟨before, inner, after, hs, hbefore, hinner, hbalanced⟩
    have hlength := congrArg List.length hs
    simp only [List.length_append, List.length_cons, length_inPairs] at hlength hinner
    refine ⟨inner, ?_, hbalanced⟩
    -- the parts around the two parentheses are as long as the `k` pairs
    have hsplit : List.replicate k '(' ++ (s ++ List.replicate k ')') =
        before ++ ('(' :: (inner ++ [')']) ++ after) := by
      rw [← List.append_assoc, ← inPairs, hs]
      simp
    have hrest := (List.append_inj hsplit (by simp [hbefore])).2
    exact (List.append_inj' hrest (by simp; omega)).1
  · rintro ⟨t, rfl, hbalanced⟩
    refine ⟨List.replicate k '(', t, List.replicate k ')', ?_, ?_, ?_, hbalanced⟩
    · simp [inPairs]
    · simp
    · simp only [List.length_replicate, length_inPairs, List.length_cons, List.length_append,
        List.length_nil]
      omega

/-- The first `n` characters of a text open pairs that the last `n` characters close, the outermost
pair first. -/
def HasOuterPairs (s : List Char) (n : Nat) : Prop :=
  ∀ i < n, Partners s i (s.length - 1 - i)

/-- If no pair encloses a balanced text, then as many pairs as are put around it enclose the whole,
and no more. -/
theorem isGreatest_inPairs {s : List Char} (hs : balanced s = true)
    (hbare : ∀ t, balanced t = true → s ≠ '(' :: (t ++ [')'])) (k : Nat) :
    IsGreatest {n | HasOuterPairs (inPairs k s) n} k := by
  constructor
  · intro i hi
    have hk : inPairs k s = inPairs i (inPairs (k - 1 - i + 1) s) := by
      rw [inPairs_inPairs]
      congr 1
      omega
    rw [hk]
    exact partners_inPairs_iff.2 ⟨_, inPairs_succ _ s, balanced_inPairs hs _⟩
  · intro n hn
    by_contra hk
    obtain ⟨t, hst, ht⟩ := partners_inPairs_iff.1 (hn k (Nat.lt_of_not_le hk))
    exact hbare t ht hst

/-! ## Trimming -/

/-- What is taken off are pairs. -/
theorem exists_inPairs_trimOuter (s : List Char) : ∃ k, s = inPairs k (trimOuter s) := by
  fun_induction trimOuter s with
  | case1 s t hst ih =>
    obtain ⟨k, hk⟩ := ih
    refine ⟨k + 1, ?_⟩
    rw [inPairs_succ, ← hk]
    exact (eq_of_stripPair? hst).1
  | case2 s => exact ⟨0, (inPairs_zero s).symm⟩

/-- Trimming ends where no pair comes off. -/
theorem stripPair?_trimOuter (s : List Char) : stripPair? (trimOuter s) = none := by
  fun_induction trimOuter s with
  | case1 s t hst ih => exact ih
  | case2 s hs => exact hs

/-- No pair is left around a balanced text. -/
theorem trimOuter_ne_enclosed (s : List Char) {t : List Char} (ht : balanced t = true) :
    trimOuter s ≠ '(' :: (t ++ [')']) := by
  intro h
  have hnone := stripPair?_trimOuter s
  rw [h, stripPair?_enclosed ht] at hnone
  cases hnone

/-- Trimming neither makes nor breaks balance. -/
theorem balanced_trimOuter_iff {s : List Char} :
    balanced (trimOuter s) = true ↔ balanced s = true := by
  refine ⟨fun h => ?_, balanced_trimOuter⟩
  obtain ⟨k, hk⟩ := exists_inPairs_trimOuter s
  rw [hk]
  exact balanced_inPairs h k

/-- **Trimming takes off exactly the pairs that enclose a text.** From any text it takes a number of
opening parentheses in front and as many closing ones at the end, and after that nothing more. What
is left is balanced exactly if the text is, and it is not a balanced text in parentheses. If the
text is balanced, then the number of pairs is the greatest for which each of so many first
characters has its partner at the same distance from the end. -/
theorem trimOuter_removes_enclosing_pairs (s : List Char) :
    ∃ k, s = List.replicate k '(' ++ trimOuter s ++ List.replicate k ')' ∧
      trimOuter (trimOuter s) = trimOuter s ∧
      (balanced (trimOuter s) = true ↔ balanced s = true) ∧
      (∀ t, balanced t = true → trimOuter s ≠ '(' :: (t ++ [')'])) ∧
      (balanced s = true → IsGreatest {n | HasOuterPairs s n} k) := by
  obtain ⟨k, hk⟩ := exists_inPairs_trimOuter s
  have hbare : ∀ t, balanced t = true → trimOuter s ≠ '(' :: (t ++ [')']) :=
    fun t => trimOuter_ne_enclosed s
  refine ⟨k, hk, trimOuter_eq_self (stripPair?_trimOuter s), balanced_trimOuter_iff, hbare, ?_⟩
  intro hs
  have hgreatest := isGreatest_inPairs (balanced_trimOuter hs) hbare k
  rwa [← hk] at hgreatest

/-- Two pairs come off here, and what is left begins and ends with parentheses that are not
partners. -/
theorem trimOuter_removes_enclosing_pairs_twice :
    balanced "(((p)&(q)))".toList = true ∧
      trimOuter "(((p)&(q)))".toList = "(p)&(q)".toList ∧
      IsGreatest {n | HasOuterPairs "(((p)&(q)))".toList n} 2 := by
  have hbalanced : balanced "(((p)&(q)))".toList = true := by decide
  have htrim : trimOuter "(((p)&(q)))".toList = "(p)&(q)".toList := by
    have houter : stripPair? "(((p)&(q)))".toList = some "((p)&(q))".toList := by decide
    have hinner : stripPair? "((p)&(q))".toList = some "(p)&(q)".toList := by decide
    rw [trimOuter_of_stripPair? houter, trimOuter_of_stripPair? hinner]
    exact trimOuter_eq_self (by decide)
  obtain ⟨k, hk, -, -, -, hgreatest⟩ := trimOuter_removes_enclosing_pairs "(((p)&(q)))".toList
  have hlength := congrArg List.length hk
  rw [htrim] at hlength
  obtain rfl : k = 2 := by
    simp at hlength
    omega
  exact ⟨hbalanced, htrim, hgreatest hbalanced⟩

end NaturalDeduction
