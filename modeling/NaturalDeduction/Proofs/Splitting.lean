import NaturalDeduction.Proofs.Parsing

/-!
# Where a text is cut

Cutting a text at its main operator says nothing about parentheses that have no partner, so the
count of open ones may fall below zero and come back. Still it has a simple description, for every
text: a binary form is found exactly if a connective begins where as many parentheses have been
closed as opened, and then at the first such position (`splitMainFrom_eq_some_iff`); a leading
operator is found only if there is no such position (`splitMainFrom_eq_none_iff`). Both follow from
what one character does to the search (`splitMainFrom_cons`). That signs overlap makes no
difference, since none of them begins another one (`Connective.read?_eq_some_iff`).

**Main result** (`splitting_is_lossless_and_ends`): this description for the three forms with
operands, that operands are shorter than the text they were cut from, and what it means for reading:
no chain of parts goes on forever (`wellFounded_isPartOf`), and the limit on nesting is not what
ends it (`Formula.exists_outcome`).
-/

namespace NaturalDeduction

/-! ## Positions outside of parentheses -/

/-- How many more parentheses a text opens than it closes. -/
def surplus (s : List Char) : Int :=
  s.count '(' - s.count ')'

/-- What one character adds to the parentheses that are open. -/
def turn (c : Char) : Int :=
  if c = '(' then 1 else if c = ')' then -1 else 0

/-- In the empty text nothing has been opened. -/
@[simp] theorem surplus_nil : surplus [] = 0 := rfl

/-- The first character counts, and then the rest. -/
@[simp] theorem surplus_cons (c : Char) (s : List Char) :
    surplus (c :: s) = turn c + surplus s := by
  by_cases ho : c = '('
  · subst ho
    simp [surplus, turn]
    omega
  · by_cases hc : c = ')'
    · subst hc
      simp [surplus, turn]
      omega
    · simp [surplus, turn, ho, hc]

/-- A connective begins at position `i` of a text, and there no parenthesis is open, if `depth` are
open at the front. -/
def ConnectiveAt (depth : Int) (s : List Char) (i : Nat) : Prop :=
  depth + surplus (s.take i) = 0 ∧ ∃ op : Connective, op.symbol <+: s.drop i

/-- A connective outside parentheses stands at the front of the text. -/
theorem connectiveAt_zero {d : Int} {s : List Char} :
    ConnectiveAt d s 0 ↔ d = 0 ∧ ∃ op : Connective, op.symbol <+: s := by
  simp [ConnectiveAt]

/-- Behind the first character the level is what that character makes it. -/
theorem connectiveAt_succ {d : Int} {c : Char} {s : List Char} {i : Nat} :
    ConnectiveAt d (c :: s) (i + 1) ↔ ConnectiveAt (d + turn c) s i := by
  simp only [ConnectiveAt, List.take_succ_cons, List.drop_succ_cons, surplus_cons, Int.add_assoc]

/-- No sign begins another one, so the sign at the front of a text is unique. -/
theorem Connective.read?_eq_some_iff {s after : List Char} {op : Connective} :
    Connective.read? s = some (op, after) ↔ s = op.symbol ++ after := by
  refine ⟨eq_of_read?, ?_⟩
  rintro rfl
  cases op <;> rfl

/-- No connective is read where none is at the front of the text. -/
theorem Connective.read?_eq_none_iff {s : List Char} :
    Connective.read? s = none ↔ ¬ ∃ op : Connective, op.symbol <+: s := by
  constructor
  · rintro h ⟨op, after, hs⟩
    rw [Connective.read?_eq_some_iff.2 hs.symm] at h
    cases h
  · intro h
    cases hread : Connective.read? s with
    | none => rfl
    | some found => exact absurd ⟨found.1, found.2, (eq_of_read? hread).symm⟩ h

/-! ## The search for the main connective -/

/-- **One step of the search**: unless a connective begins here, a character is passed over, and it
changes the count of open parentheses. -/
theorem splitMainFrom_cons {d : Int} {c : Char} {s : List Char} (h : ¬ ConnectiveAt d (c :: s) 0) :
    splitMainFrom d (c :: s) = (splitMainFrom (d + turn c) s).map (cutAfter [c]) := by
  by_cases ho : c = '('
  · subst ho
    exact splitMainFrom_open d s
  · by_cases hc : c = ')'
    · subst hc
      exact splitMainFrom_close d s
    · have hskip : d ≠ 0 ∨ Connective.read? (c :: s) = none := by
        rwa [connectiveAt_zero, not_and_or, ← Connective.read?_eq_none_iff] at h
      have hturn : turn c = 0 := by simp [turn, ho, hc]
      rw [splitMainFrom_other ho hc hskip, hturn, Int.add_zero]

/-- At a connective the search is over. -/
theorem splitMainFrom_of_connectiveAt {s : List Char} {op : Connective} {after : List Char}
    (h : s = op.symbol ++ after) : splitMainFrom 0 s = some ([], op, after) := by
  subst h
  cases op <;> rfl

/-- A connective at the front, outside parentheses, is found there. -/
theorem exists_split_of_connectiveAt_zero {d : Int} {s : List Char} (h : ConnectiveAt d s 0) :
    d = 0 ∧ ∃ op after, s = op.symbol ++ after ∧ splitMainFrom d s = some ([], op, after) := by
  obtain ⟨rfl, op, after, hs⟩ := connectiveAt_zero.1 h
  exact ⟨rfl, op, after, hs.symm, splitMainFrom_of_connectiveAt hs.symm⟩

/-- Nothing is found if there is nothing to be found. -/
theorem splitMainFrom_eq_none_iff {d : Int} {s : List Char} :
    splitMainFrom d s = none ↔ ∀ i, ¬ ConnectiveAt d s i := by
  induction s generalizing d with
  | nil =>
    refine iff_of_true rfl ?_
    rintro i ⟨-, op, hop⟩
    rw [List.drop_nil, List.prefix_nil] at hop
    exact absurd (congrArg List.length hop) (Nat.ne_of_gt op.symbol_length_pos)
  | cons c s ih =>
    by_cases hhere : ConnectiveAt d (c :: s) 0
    · obtain ⟨-, op, after, -, hcut⟩ := exists_split_of_connectiveAt_zero hhere
      refine iff_of_false ?_ (fun hnone => hnone 0 hhere)
      rw [hcut]
      exact Option.some_ne_none _
    · rw [splitMainFrom_cons hhere, Option.map_eq_none_iff, ih]
      constructor
      · rintro hlater (_ | i)
        · exact hhere
        · rw [connectiveAt_succ]
          exact hlater i
      · intro hnone i
        rw [← connectiveAt_succ]
        exact hnone (i + 1)

/-- What is found is a connective outside of parentheses, with none before it. -/
theorem first_of_splitMainFrom {d : Int} {s before after : List Char} {op : Connective}
    (h : splitMainFrom d s = some (before, op, after)) :
    d + surplus before = 0 ∧ ∀ i < before.length, ¬ ConnectiveAt d s i := by
  induction s generalizing d before with
  | nil => simp [splitMainFrom] at h
  | cons c s ih =>
    by_cases hhere : ConnectiveAt d (c :: s) 0
    · obtain ⟨rfl, _, _, -, hcut⟩ := exists_split_of_connectiveAt_zero hhere
      rw [hcut] at h
      cases h
      exact ⟨rfl, fun i hi => absurd hi (Nat.not_lt_zero i)⟩
    · rw [splitMainFrom_cons hhere] at h
      obtain ⟨⟨b, o, a⟩, hcut, heq⟩ := Option.map_eq_some_iff.1 h
      cases heq
      obtain ⟨hlevel, hfirst⟩ := ih hcut
      refine ⟨?_, ?_⟩
      · rw [List.singleton_append, surplus_cons, ← Int.add_assoc]
        exact hlevel
      · rintro (_ | i) hi
        · exact hhere
        · rw [connectiveAt_succ]
          exact hfirst i (Nat.lt_of_succ_lt_succ hi)

/-- The cut is made at the first connective outside of parentheses, whatever stands around it. -/
theorem splitMainFrom_eq_some_iff {d : Int} {s before after : List Char} {op : Connective} :
    splitMainFrom d s = some (before, op, after) ↔
      s = before ++ op.symbol ++ after ∧ d + surplus before = 0 ∧
        ∀ i < before.length, ¬ ConnectiveAt d s i := by
  constructor
  · intro h
    exact ⟨eq_of_splitMainFrom h, first_of_splitMainFrom h⟩
  · -- Going along the part before the cut, each character is passed over.
    rintro ⟨rfl, hlevel, hfirst⟩
    induction before generalizing d with
    | nil =>
      have hd : d = 0 := by simpa using hlevel
      subst hd
      exact splitMainFrom_of_connectiveAt rfl
    | cons c before ih =>
      have hhere := hfirst 0 (Nat.succ_pos _)
      simp only [List.cons_append] at hhere hfirst ⊢
      rw [surplus_cons, ← Int.add_assoc] at hlevel
      rw [splitMainFrom_cons hhere, ih hlevel]
      · rfl
      · intro i hi
        rw [← connectiveAt_succ]
        exact hfirst (i + 1) (Nat.succ_lt_succ hi)

/-! ## The forms with operands -/

/-- A text with a connective outside of parentheses is not atomic. -/
theorem split_eq_binary_iff {s l r : List Char} {op : Connective} :
    split s = some (.binary op l r) ↔ splitMain s = some (l, op, r) := by
  refine ⟨describes_of_split, fun h => ?_⟩
  have hvar : readVariable? s = none := by
    cases hread : readVariable? s with
    | none => rfl
    | some a =>
      have hmain := (Grammar.UnitTree.letter a).splitMain_chars
      rw [Grammar.UnitTree.chars, ← eq_of_readVariable? hread, h] at hmain
      cases hmain
  have happ : readApplication? s = none := by
    cases hread : readApplication? s with
    | none => rfl
    | some found =>
      have hmain := (Grammar.UnitTree.application found.1 found.2).splitMain_chars
      rw [Grammar.UnitTree.chars, ← eq_of_readApplication? hread, h] at hmain
      cases hmain
  simp only [split, hvar, happ, h]

/-- A text is split as a negation if it has no main connective and begins with the sign. -/
theorem split_eq_negation_iff {s t : List Char} :
    split s = some (.negation t) ↔ splitMain s = none ∧ s = '~' :: t := by
  refine ⟨describes_of_split, ?_⟩
  rintro ⟨hmain, rfl⟩
  obtain ⟨hvar, happ⟩ := Grammar.read_eq_none (c := '~') rfl rfl t
  simp only [split, hvar, happ, hmain]
  rfl

/-- A text is split as a quantifier if it has no main connective and the rest is in one pair of
parentheses. -/
theorem split_eq_quantifier_iff {s t : List Char} {q : Quantifier} {v : Letter} :
    split s = some (.quantifier q v t) ↔
      splitMain s = none ∧ s = q.symbol :: v.char :: t ∧ (stripPair? t).isSome = true := by
  refine ⟨describes_of_split, ?_⟩
  rintro ⟨hmain, rfl, hpair⟩
  have hq : Letter.ofChar? q.symbol = none ∧ PredicateSymbol.ofChar? q.symbol = none := by
    cases q <;> exact ⟨rfl, rfl⟩
  obtain ⟨hvar, happ⟩ := Grammar.read_eq_none hq.1 hq.2 (v.char :: t)
  have htilde : q.symbol ≠ '~' := by cases q <;> decide
  have hread : Quantifier.ofChar? q.symbol = some q := by cases q <;> rfl
  simp only [split, hvar, happ, hmain, splitUnary?, if_neg htilde, splitQuantifier?, hread,
    Letter.ofChar?_char, hpair, if_true]

/-- A pair of parentheses encloses a text exactly if trimming takes it off. -/
theorem isSome_stripPair?_iff {t : List Char} :
    (stripPair? t).isSome = true ↔
      ∃ u, t = '(' :: (u ++ [')']) ∧ trimOuter t = trimOuter u := by
  constructor
  · intro h
    obtain ⟨u, hu⟩ := Option.isSome_iff_exists.1 h
    exact ⟨u, (eq_of_stripPair? hu).1, trimOuter_of_stripPair? hu⟩
  · rintro ⟨u, ht, htrim⟩
    -- If nothing came off, trimming the inner text would have made it longer.
    rw [Option.isSome_iff_ne_none]
    intro hnone
    have hle := length_trimOuter_le u
    rw [← htrim, trimOuter_eq_self hnone, ht] at hle
    simp only [List.length_cons, List.length_append, List.length_nil] at hle
    omega

/-! ## Reading part by part -/

/-- The parts of a text with which reading goes on: the operands, once the text has been freed of
the parentheses that enclose it. -/
def IsPartOf (t s : List Char) : Prop :=
  ∃ form, split (trimOuter s) = some form ∧ t ∈ form.operands

/-- The parts of a text are shorter than the text. -/
theorem IsPartOf.length_lt {s t : List Char} (h : IsPartOf t s) : t.length < s.length := by
  obtain ⟨form, hform, ht⟩ := h
  exact Nat.lt_of_lt_of_le (length_of_split hform t ht) (length_trimOuter_le s)

/-- Parts of parts come to an end. -/
theorem wellFounded_isPartOf : WellFounded IsPartOf :=
  Subrelation.wf IsPartOf.length_lt (measure List.length).wf

namespace Formula

/-- The outcome of reading a text when nesting does not matter: every parser whose limit leaves room
for as many operators as the text has characters has this outcome, and it is not about nesting. -/
structure IsOutcome (s : List Char) (outcome : Except ParseError Formula) : Prop where
  /-- All parsers with enough room agree. -/
  agree : ∀ (limits : Limits) (n : Nat), ((n + s.length : Nat) : Int) ≤ limits.maxDepth →
    parsePart limits n s = outcome
  /-- The limit on nesting has not ended it. -/
  ne_tooDeep : ∀ limit, outcome ≠ .error (.tooDeep limit)

/-- A part below which there is room is read by its form. -/
theorem parsePart_of_form {s : List Char} {form : Split} (hform : split (trimOuter s) = some form)
    {limits : Limits} {n : Nat} (hn : ((n + s.length : Nat) : Int) ≤ limits.maxDepth) :
    parsePart limits n s = parseForm limits n (trimOuter s) form := by
  rw [parsePart_eq, if_neg (by omega), hform]

/-- The outcome for a text is put together from those for its parts. -/
theorem exists_outcome_of_parts {s : List Char}
    (h : ∀ t, IsPartOf t s → ∃ outcome, IsOutcome t outcome) : ∃ outcome, IsOutcome s outcome := by
  cases hform : split (trimOuter s) with
  | none =>
    refine ⟨.error (.malformed (trimOuter s)), ?_, fun limit => by simp⟩
    intro limits n hn
    rw [parsePart_eq, if_neg (by omega), hform]
  | some form =>
    -- A limit that leaves room for the text leaves room for its parts below one more operator.
    have hpart : ∀ t ∈ form.operands, ∃ outcome, IsOutcome t outcome ∧
        ∀ (limits : Limits) (n : Nat), ((n + s.length : Nat) : Int) ≤ limits.maxDepth →
          parsePart limits (n + 1) t = outcome := by
      intro t ht
      have hpart : IsPartOf t s := ⟨form, hform, ht⟩
      have hlt := hpart.length_lt
      obtain ⟨outcome, houtcome⟩ := h t hpart
      exact ⟨outcome, houtcome, fun limits n hn => houtcome.agree limits (n + 1) (by omega)⟩
    cases form with
    | letter a =>
      exact ⟨.ok (.atom a), fun limits n => parsePart_of_form hform, fun limit => by simp⟩
    | application P t =>
      exact ⟨.ok (.application P t), fun limits n => parsePart_of_form hform, fun limit => by simp⟩
    | binary op l r =>
      obtain ⟨lhs, hlhs, hl⟩ := hpart l (by simp [Split.operands])
      obtain ⟨rhs, hrhs, hr⟩ := hpart r (by simp [Split.operands])
      refine ⟨if l.isEmpty || r.isEmpty then
          .error (.missingOperand op.symbol (trimOuter s))
        else do
          let f ← lhs
          let g ← rhs
          .ok (.binary op f g), ?_, fun limit => ?_⟩
      · intro limits n hn
        rw [parsePart_of_form hform hn, parseForm, hl limits n hn, hr limits n hn]
      · split
        · simp
        · exact bind_ne_error (hlhs.ne_tooDeep limit) fun f =>
            bind_ne_error (hrhs.ne_tooDeep limit) fun g => by simp
    | negation t =>
      obtain ⟨arg, harg, ht⟩ := hpart t (by simp [Split.operands])
      refine ⟨if t.isEmpty then .error (.missingOperand ['~'] (trimOuter s)) else do
        let f ← arg
        .ok (.not f), ?_, fun limit => ?_⟩
      · intro limits n hn
        rw [parsePart_of_form hform hn, parseForm, ht limits n hn]
      · split
        · simp
        · exact bind_ne_error (harg.ne_tooDeep limit) fun f => by simp
    | quantifier q v t =>
      obtain ⟨scope, hscope, ht⟩ := hpart t (by simp [Split.operands])
      refine ⟨do
        let f ← scope
        .ok (.quantified q v f), ?_, fun limit => ?_⟩
      · intro limits n hn
        rw [parsePart_of_form hform hn, parseForm, ht limits n hn]
      · exact bind_ne_error (hscope.ne_tooDeep limit) fun f => by simp

/-- Reading a text ends by itself. -/
theorem exists_outcome (s : List Char) : ∃ outcome, IsOutcome s outcome := by
  induction s using wellFounded_isPartOf.induction with
  | _ s ih => exact exists_outcome_of_parts ih

end Formula

/-! ## The whole -/

/-- **Cutting at the main operator is lossless, and cutting again and again ends.** For every text,
whether its parentheses match or not: it is cut at a connective exactly if this is the first one
that begins where no parenthesis is open, into what stands before and after; at a negation or a
quantifier only if there is no such connective; and the scope of a quantifier loses at least one
pair of parentheses. Operands are shorter than the text, so parts of parts come to an end, and
whatever the limit on nesting, as long as it leaves room for the text, reading ends in the same way
and not at the limit. -/
theorem splitting_is_lossless_and_ends :
    (∀ s l r op, split s = some (.binary op l r) ↔
      s = l ++ op.symbol ++ r ∧ surplus l = 0 ∧ ∀ i < l.length, ¬ ConnectiveAt 0 s i) ∧
    (∀ s t, split s = some (.negation t) ↔ s = '~' :: t ∧ ∀ i, ¬ ConnectiveAt 0 s i) ∧
    (∀ s q v t, split s = some (.quantifier q v t) ↔
      s = q.symbol :: v.char :: t ∧ (∀ i, ¬ ConnectiveAt 0 s i) ∧
        ∃ u, t = '(' :: (u ++ [')']) ∧ trimOuter t = trimOuter u) ∧
    (∀ s form, split s = some form → ∀ t ∈ form.operands, t.length < s.length) ∧
    WellFounded IsPartOf ∧
    ∀ s, ∃ outcome, Formula.IsOutcome s outcome := by
  refine ⟨?_, ?_, ?_, fun s form => length_of_split, wellFounded_isPartOf, Formula.exists_outcome⟩
  · intro s l r op
    rw [split_eq_binary_iff, splitMain, splitMainFrom_eq_some_iff, Int.zero_add]
  · intro s t
    rw [split_eq_negation_iff, splitMain, splitMainFrom_eq_none_iff, and_comm]
  · intro s q v t
    rw [split_eq_quantifier_iff, splitMain, splitMainFrom_eq_none_iff, isSome_stripPair?_iff]
    exact and_left_comm

end NaturalDeduction
