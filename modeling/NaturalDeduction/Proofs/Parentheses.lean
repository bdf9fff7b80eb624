import NaturalDeduction.Formula.Split

/-!
# Counting parentheses

What balanced texts do to the three counts that go through a text: `balancedFrom`, `staysOpen` and
`splitMainFrom`. A text that is balanced when `m` parentheses are open closes exactly these, so each
count goes through it as if it were not there (`balancedFrom_append`, `staysOpen_append`,
`splitMainFrom_append`, all by `balancedFrom_induction`).

Two consequences are what reading a formula rests on. An enclosing pair of parentheses comes off
exactly if what it encloses is balanced (`stripPair?_enclosed`, `balanced_of_stripPair?`), and the
two sides of the main connective of a balanced text are balanced, with no connective at the same
level on the left side (`balancedFrom_of_splitMainFrom`, `splitMainFrom_before`).
-/

namespace NaturalDeduction

/-! ## One character at a time -/

/-- A parenthesis that opens is one more to be closed. -/
@[simp] theorem balancedFrom_open (n : Nat) (s : List Char) :
    balancedFrom n ('(' :: s) = balancedFrom (n + 1) s := rfl

/-- A parenthesis that closes is one less to be closed. -/
@[simp] theorem balancedFrom_close (n : Nat) (s : List Char) :
    balancedFrom (n + 1) (')' :: s) = balancedFrom n s := rfl

/-- Nothing is left that a further parenthesis could close. -/
@[simp] theorem balancedFrom_zero_close (s : List Char) : balancedFrom 0 (')' :: s) = false := rfl

/-- Characters other than parentheses do not matter to balance. -/
theorem balancedFrom_other {c : Char} (ho : c ≠ '(') (hc : c ≠ ')') (n : Nat) (s : List Char) :
    balancedFrom n (c :: s) = balancedFrom n s := by
  simp [balancedFrom, ho, hc]

/-- A parenthesis that opens is one more to be closed. -/
@[simp] theorem staysOpen_open (n : Nat) (s : List Char) :
    staysOpen n ('(' :: s) = staysOpen (n + 1) s := rfl

/-- A parenthesis that closes is one less to be closed, as long as one is left. -/
@[simp] theorem staysOpen_close (n : Nat) (s : List Char) :
    staysOpen (n + 2) (')' :: s) = staysOpen (n + 1) s := rfl

/-- The last parenthesis that is open does not stay open when it is closed. -/
@[simp] theorem staysOpen_one_close (s : List Char) : staysOpen 1 (')' :: s) = false := rfl

/-- Characters other than parentheses leave open what is open. -/
theorem staysOpen_other {c : Char} (ho : c ≠ '(') (hc : c ≠ ')') (n : Nat) (s : List Char) :
    staysOpen n (c :: s) = staysOpen n s := by
  simp [staysOpen, ho, hc]

/-- A cut with more text in front. -/
def cutAfter (s : List Char) (cut : List Char × Connective × List Char) :
    List Char × Connective × List Char :=
  (s ++ cut.1, cut.2)

/-- Text that is put in front twice is put in front at once. -/
theorem map_cutAfter_cutAfter (s t : List Char)
    (cut : Option (List Char × Connective × List Char)) :
    (cut.map (cutAfter t)).map (cutAfter s) = cut.map (cutAfter (s ++ t)) := by
  cases cut with
  | none => rfl
  | some cut => simp [cutAfter]

/-- The search goes on one level further down. -/
theorem splitMainFrom_open (d : Int) (s : List Char) :
    splitMainFrom d ('(' :: s) = (splitMainFrom (d + 1) s).map (cutAfter ['(']) := rfl

/-- The search goes on one level further up. -/
theorem splitMainFrom_close (d : Int) (s : List Char) :
    splitMainFrom d (')' :: s) = (splitMainFrom (d - 1) s).map (cutAfter [')']) := rfl

/-- A character is passed over inside of parentheses, and elsewhere unless a connective begins with
it. -/
theorem splitMainFrom_other {c : Char} (ho : c ≠ '(') (hc : c ≠ ')') {d : Int} {s : List Char}
    (h : d ≠ 0 ∨ Connective.read? (c :: s) = none) :
    splitMainFrom d (c :: s) = (splitMainFrom d s).map (cutAfter [c]) := by
  simp only [splitMainFrom, if_neg ho, if_neg hc]
  by_cases hd : d = 0
  · rcases h with h | h
    · exact absurd hd h
    · rw [if_pos hd, h]
      rfl
  · rw [if_neg hd]
    rfl

/-- Outside of parentheses the text is cut at the first connective. -/
theorem splitMainFrom_read {c : Char} (ho : c ≠ '(') (hc : c ≠ ')') {s after : List Char}
    {op : Connective} (h : Connective.read? (c :: s) = some (op, after)) :
    splitMainFrom 0 (c :: s) = some ([], op, after) := by
  simp only [splitMainFrom, if_neg ho, if_neg hc, if_true, h]

/-! ## Passing over a balanced text -/

/-- Induction along a text that closes `m` parentheses. -/
theorem balancedFrom_induction {motive : Nat → List Char → Prop} (nil : motive 0 [])
    (opening : ∀ m s, motive (m + 1) s → motive m ('(' :: s))
    (closing : ∀ m s, motive m s → motive (m + 1) (')' :: s))
    (other : ∀ c m s, c ≠ '(' → c ≠ ')' → motive m s → motive m (c :: s))
    {m : Nat} {s : List Char} (h : balancedFrom m s = true) : motive m s := by
  induction s generalizing m with
  | nil =>
    obtain rfl : m = 0 := by simpa [balancedFrom] using h
    exact nil
  | cons c s ih =>
    by_cases ho : c = '('
    · subst ho
      exact opening m s (ih h)
    · by_cases hc : c = ')'
      · subst hc
        cases m with
        | zero => simp at h
        | succ m => exact closing m s (ih h)
      · rw [balancedFrom_other ho hc] at h
        exact other c m s ho hc (ih h)

/-- A text that closes `m` parentheses is passed over by the test of balance. -/
theorem balancedFrom_append {m : Nat} {s : List Char} (h : balancedFrom m s = true) (n : Nat)
    (t : List Char) : balancedFrom (m + n) (s ++ t) = balancedFrom n t := by
  refine balancedFrom_induction
    (motive := fun m s => balancedFrom (m + n) (s ++ t) = balancedFrom n t) ?_ ?_ ?_ ?_ h
  · rw [Nat.zero_add, List.nil_append]
  · intro m s ih
    rw [List.cons_append, balancedFrom_open, Nat.add_right_comm, ih]
  · intro m s ih
    rw [List.cons_append, Nat.succ_add, balancedFrom_close, ih]
  · intro c m s ho hc ih
    rw [List.cons_append, balancedFrom_other ho hc, ih]

/-- Balanced texts one after the other are balanced. -/
theorem balanced_append {s t : List Char} (hs : balanced s = true) (ht : balanced t = true) :
    balanced (s ++ t) = true := by
  have := balancedFrom_append (m := 0) hs 0 t
  rw [balanced, ← ht, balanced, ← this]

/-- A text that closes `m` parentheses keeps one more open. -/
theorem staysOpen_append {m : Nat} {s : List Char} (h : balancedFrom m s = true) (n : Nat)
    (t : List Char) : staysOpen (m + n + 1) (s ++ t) = staysOpen (n + 1) t := by
  refine balancedFrom_induction
    (motive := fun m s => staysOpen (m + n + 1) (s ++ t) = staysOpen (n + 1) t) ?_ ?_ ?_ ?_ h
  · rw [Nat.zero_add, List.nil_append]
  · intro m s ih
    rw [List.cons_append, staysOpen_open, Nat.add_right_comm m n 1, ih]
  · intro m s ih
    rw [List.cons_append, Nat.succ_add, staysOpen_close, ih]
  · intro c m s ho hc ih
    rw [List.cons_append, staysOpen_other ho hc, ih]

/-- Inside of parentheses a text that closes `m` of them is passed over by the search for the main
connective. -/
theorem splitMainFrom_append {m : Nat} {s : List Char} (h : balancedFrom m s = true) (n : Nat)
    (t : List Char) :
    splitMainFrom (m + n + 1 : Nat) (s ++ t) =
      (splitMainFrom (n + 1 : Nat) t).map (cutAfter s) := by
  refine balancedFrom_induction
    (motive := fun m s => splitMainFrom (m + n + 1 : Nat) (s ++ t) =
      (splitMainFrom (n + 1 : Nat) t).map (cutAfter s)) ?_ ?_ ?_ ?_ h
  · rw [Nat.zero_add, List.nil_append]
    cases splitMainFrom (n + 1 : Nat) t <;> rfl
  · intro m s ih
    have hd : ((m + n + 1 : Nat) : Int) + 1 = ((m + 1) + n + 1 : Nat) := by omega
    rw [List.cons_append, splitMainFrom_open, hd, ih, map_cutAfter_cutAfter]
    rfl
  · intro m s ih
    have hd : ((m + 1 + n + 1 : Nat) : Int) - 1 = (m + n + 1 : Nat) := by omega
    rw [List.cons_append, splitMainFrom_close, hd, ih, map_cutAfter_cutAfter]
    rfl
  · intro c m s ho hc ih
    have hd : ((m + n + 1 : Nat) : Int) ≠ 0 := by omega
    rw [List.cons_append, splitMainFrom_other ho hc (.inl hd), ih, map_cutAfter_cutAfter]
    rfl

/-- Outside of parentheses a balanced text in parentheses is passed over by the search for the main
connective. -/
theorem splitMainFrom_enclosed {s : List Char} (h : balanced s = true) (t : List Char) :
    splitMainFrom 0 ('(' :: (s ++ ')' :: t)) =
      (splitMainFrom 0 t).map (cutAfter ('(' :: (s ++ [')']))) := by
  have hs : splitMainFrom 1 (s ++ ')' :: t) = (splitMainFrom 1 (')' :: t)).map (cutAfter s) :=
    splitMainFrom_append (m := 0) h 0 (')' :: t)
  rw [splitMainFrom_open, Int.zero_add, hs, splitMainFrom_close, map_cutAfter_cutAfter,
    map_cutAfter_cutAfter]
  rfl

/-! ## Enclosing pairs -/

/-- A pair that can be taken off encloses the text and stays open up to its end. -/
theorem eq_of_stripPair? {s t : List Char} (h : stripPair? s = some t) :
    s = '(' :: (t ++ [')']) ∧ staysOpen 1 t = true := by
  cases s with
  | nil => simp [stripPair?] at h
  | cons c s =>
    simp only [stripPair?] at h
    split at h
    · next hcond =>
      obtain ⟨rfl, hlast, hopen⟩ := hcond
      obtain ⟨u, rfl⟩ := List.getLast?_eq_some_iff.1 hlast
      rw [List.dropLast_concat] at h hopen
      cases h
      exact ⟨rfl, hopen⟩
    · cases h

/-- A pair that encloses a balanced text comes off. -/
theorem stripPair?_enclosed {s : List Char} (h : balanced s = true) :
    stripPair? ('(' :: (s ++ [')'])) = some s := by
  have hopen : staysOpen 1 s = true := by
    have := staysOpen_append (m := 0) h 0 []
    simpa [staysOpen] using this
  simp [stripPair?, hopen]

/-- A last closing parenthesis closes what stayed open. -/
theorem balancedFrom_append_close {n : Nat} {s : List Char} (h : staysOpen (n + 1) s = true) :
    balancedFrom (n + 1) (s ++ [')']) = balancedFrom n s := by
  induction s generalizing n with
  | nil => rfl
  | cons c s ih =>
    rw [List.cons_append]
    by_cases ho : c = '('
    · subst ho
      exact ih h
    · by_cases hc : c = ')'
      · subst hc
        cases n with
        | zero => simp at h
        | succ n => exact ih h
      · rw [staysOpen_other ho hc] at h
        rw [balancedFrom_other ho hc, balancedFrom_other ho hc]
        exact ih h

/-- What an enclosing pair of a balanced text encloses is balanced. -/
theorem balanced_of_stripPair? {s t : List Char} (h : stripPair? s = some t)
    (hs : balanced s = true) : balanced t = true := by
  obtain ⟨rfl, hopen⟩ := eq_of_stripPair? h
  rw [balanced, balancedFrom_open, balancedFrom_append_close hopen] at hs
  exact hs

/-- The search for enclosing pairs goes on inside of one. -/
theorem trimOuter_of_stripPair? {s t : List Char} (h : stripPair? s = some t) :
    trimOuter s = trimOuter t := by
  rw [trimOuter]
  split
  · next u hu =>
    rw [h] at hu
    cases hu
    rfl
  · next hn =>
    rw [h] at hn
    cases hn

/-- Trimming changes nothing where no pair can be taken off. -/
theorem trimOuter_eq_self {s : List Char} (h : stripPair? s = none) : trimOuter s = s := by
  rw [trimOuter]
  split
  · next u hu =>
    rw [h] at hu
    cases hu
  · rfl

/-- Trimming leaves balanced texts balanced. -/
theorem balanced_trimOuter {s : List Char} (h : balanced s = true) :
    balanced (trimOuter s) = true := by
  fun_induction trimOuter s with
  | case1 s t hst ih => exact ih (balanced_of_stripPair? hst h)
  | case2 => exact h

/-! ## The sides of the main connective -/

/-- A connective that begins a text is not lost when the text goes on. -/
theorem read?_append {s after : List Char} {op : Connective}
    (h : Connective.read? s = some (op, after)) (t : List Char) :
    Connective.read? (s ++ t) = some (op, after ++ t) := by
  rw [eq_of_read? h, List.append_assoc]
  cases op <;> rfl

/-- Connectives have no parentheses. -/
theorem balanced_symbol (op : Connective) : balanced op.symbol = true := by
  cases op <;> rfl

/-- Both sides of the connective at which a balanced text is cut are balanced. -/
theorem balancedFrom_of_splitMainFrom {n : Nat} {s before after : List Char} {op : Connective}
    (h : splitMainFrom n s = some (before, op, after)) (hs : balancedFrom n s = true) :
    balancedFrom n before = true ∧ balanced after = true := by
  induction s generalizing n before with
  | nil => simp [splitMainFrom] at h
  | cons c s ih =>
    by_cases ho : c = '('
    · subst ho
      rw [splitMainFrom_open] at h
      obtain ⟨⟨b, o, a⟩, hcut, heq⟩ := Option.map_eq_some_iff.1 h
      cases heq
      exact ih (n := n + 1) hcut hs
    · by_cases hc : c = ')'
      · subst hc
        cases n with
        | zero => simp at hs
        | succ n =>
          have hd : ((n + 1 : Nat) : Int) - 1 = n := by omega
          rw [splitMainFrom_close, hd] at h
          obtain ⟨⟨b, o, a⟩, hcut, heq⟩ := Option.map_eq_some_iff.1 h
          cases heq
          exact ih (n := n) hcut hs
      · rw [balancedFrom_other ho hc] at hs
        by_cases hskip : (n : Int) ≠ 0 ∨ Connective.read? (c :: s) = none
        · rw [splitMainFrom_other ho hc hskip] at h
          obtain ⟨⟨b, o, a⟩, hcut, heq⟩ := Option.map_eq_some_iff.1 h
          cases heq
          simp only [List.singleton_append]
          rw [balancedFrom_other ho hc]
          exact ih hcut hs
        · -- the cut is here, so nothing stands before it and the sign itself has no parentheses
          obtain ⟨hn, hread⟩ := not_or.1 hskip
          have hn : n = 0 := by omega
          subst hn
          obtain ⟨⟨o, a⟩, hread⟩ := Option.ne_none_iff_exists'.1 hread
          have hcut := splitMainFrom_read ho hc hread
          rw [show ((0 : Nat) : Int) = 0 from rfl, hcut] at h
          cases h
          rw [← balancedFrom_other ho hc, eq_of_read? hread] at hs
          have := balancedFrom_append (m := 0) (balanced_symbol op) 0 after
          exact ⟨rfl, by rw [balanced, ← this]; exact hs⟩

/-- There is no connective at the same level before the one at which a text is cut. -/
theorem splitMainFrom_before {d : Int} {s before after : List Char} {op : Connective}
    (h : splitMainFrom d s = some (before, op, after)) : splitMainFrom d before = none := by
  induction s generalizing d before with
  | nil => simp [splitMainFrom] at h
  | cons c s ih =>
    by_cases ho : c = '('
    · subst ho
      rw [splitMainFrom_open] at h
      obtain ⟨⟨b, o, a⟩, hcut, heq⟩ := Option.map_eq_some_iff.1 h
      cases heq
      simp only [List.singleton_append]
      rw [splitMainFrom_open, ih hcut]
      rfl
    · by_cases hc : c = ')'
      · subst hc
        rw [splitMainFrom_close] at h
        obtain ⟨⟨b, o, a⟩, hcut, heq⟩ := Option.map_eq_some_iff.1 h
        cases heq
        simp only [List.singleton_append]
        rw [splitMainFrom_close, ih hcut]
        rfl
      · by_cases hskip : d ≠ 0 ∨ Connective.read? (c :: s) = none
        · rw [splitMainFrom_other ho hc hskip] at h
          obtain ⟨⟨b, o, a⟩, hcut, heq⟩ := Option.map_eq_some_iff.1 h
          cases heq
          simp only [List.singleton_append]
          -- a sign that begins in the shorter text begins in the longer one too
          have hskip' : d ≠ 0 ∨ Connective.read? (c :: b) = none := by
            refine hskip.imp_right fun hnone => ?_
            cases hread : Connective.read? (c :: b) with
            | none => rfl
            | some r =>
              have hlong := read?_append hread (op.symbol ++ after)
              rw [List.cons_append, ← List.append_assoc, ← eq_of_splitMainFrom hcut, hnone]
                at hlong
              cases hlong
          rw [splitMainFrom_other ho hc hskip', ih hcut]
          rfl
        · obtain ⟨hd, hread⟩ := not_or.1 hskip
          have hd : d = 0 := by omega
          subst hd
          obtain ⟨⟨o, a⟩, hread⟩ := Option.ne_none_iff_exists'.1 hread
          rw [splitMainFrom_read ho hc hread] at h
          cases h
          rfl

end NaturalDeduction
