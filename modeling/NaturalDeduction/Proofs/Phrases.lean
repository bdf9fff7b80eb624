import NaturalDeduction.English
import NaturalDeduction.Proofs.RoundTrip

/-!
# Replacing phrases piece by piece

A text is replaced from left to right, so that a piece of it can be looked at alone, given what
stands before it and after it (`English.Turns`). Pieces that are next to each other are put together
by `English.Turns.append`, and there are two ways to settle a piece:

* the pattern matches exactly the piece (`English.turns_of_match`);
* the pattern matches nowhere in it (`English.turns_of_lacksPhrase`). The patterns that are used all
  wait for a phrase, and match only in front of it or in front of blanks with the phrase behind them
  (`English.Awaits`). So it is enough to compare the phrase with the text at each place of the
  piece.

The comparison may go beyond the piece. What comes there will be the operand of a connective, which
has no word of more than one letter in front (`English.StartsOperand`), and no phrase goes on with
less.
-/

namespace NaturalDeduction.English

open Text (isBlank isWord)

/-! ## Pieces -/

/-- In front of `rest` and after `before`, the piece `s` becomes `t`. -/
def Turns (p : Pattern) (new before s t rest : List Char) : Prop :=
  replaceFrom p new 0 before (s ++ rest) =
    t ++ replaceFrom p new 0 (s.reverse ++ before) rest

variable {p : Pattern} {new before s t s' t' rest phrase : List Char}

/-- The empty piece becomes the empty piece. -/
theorem turns_nil : Turns p new before [] [] rest := rfl

/-- Pieces are replaced one after the other. -/
theorem Turns.append (h : Turns p new before s t (s' ++ rest))
    (h' : Turns p new (s.reverse ++ before) s' t' rest) :
    Turns p new before (s ++ s') (t ++ t') rest := by
  unfold Turns at *
  rw [List.append_assoc, h, h', List.reverse_append, List.append_assoc, List.append_assoc]

/-- A character at which nothing matches stays. -/
theorem Turns.cons {c : Char} (hc : p before (c :: (s ++ rest)) = none)
    (h : Turns p new (c :: before) s t rest) : Turns p new before (c :: s) (c :: t) rest := by
  unfold Turns at h ⊢
  rw [List.cons_append, replaceFrom, hc]
  dsimp only
  rw [h, List.reverse_cons, List.append_assoc]
  rfl

/-- A piece that has been matched is passed over. -/
theorem replaceFrom_skip :
    replaceFrom p new s.length before (s ++ rest) =
      replaceFrom p new 0 (s.reverse ++ before) rest := by
  induction s generalizing before with
  | nil => rfl
  | cons c s ih =>
    rw [List.length_cons, List.cons_append, replaceFrom, ih, List.reverse_cons, List.append_assoc]
    rfl

/-- A piece that matches is replaced. -/
theorem turns_of_match (hs : s ≠ []) (h : p before (s ++ rest) = some s.length) :
    Turns p new before s new rest := by
  obtain ⟨c, s, rfl⟩ := List.exists_cons_of_ne_nil hs
  unfold Turns
  rw [List.cons_append] at h ⊢
  rw [replaceFrom, h]
  simp only [List.length_cons]
  rw [replaceFrom_skip, List.reverse_cons, List.append_assoc]
  rfl

/-- If a whole text becomes another one, replacing gives that one. -/
theorem replace_of_turns (h : Turns p new [] s t []) : replace p new s = t := by
  unfold Turns at h
  rw [List.append_nil, replaceFrom, List.append_nil] at h
  exact h

/-! ## Patterns that wait for a phrase -/

/-- A pattern that matches only where a given phrase comes, with no more than blanks before it. -/
def Awaits (p : Pattern) (phrase : List Char) : Prop :=
  ∀ before rest, p before rest ≠ none → phrase <+: rest.dropWhile isBlank

/-- A phrase that is found comes first in the text. -/
theorem isPrefix_of_phrase? (h : phrase? phrase before rest ≠ none) : phrase <+: rest := by
  apply List.isPrefixOf_iff_prefix.1
  by_contra hnot
  apply h
  simp [phrase?, hnot]

/-- A phrase with blanks around it waits for the phrase. -/
theorem awaits_spaced (phrase : List Char) : Awaits (spaced phrase) phrase := by
  intro before rest h
  simp only [spaced, ne_eq, Option.map_eq_none_iff] at h
  exact isPrefix_of_phrase? h

/-- A pattern at the front of a text waits for the same phrase. -/
theorem Awaits.opening (h : Awaits p phrase) : Awaits (opening p) phrase := by
  intro before rest hmatch
  apply h before rest
  intro hnone
  apply hmatch
  rw [English.opening, hnone, ite_self]

/-- The converse conditional waits for its word. -/
theorem awaits_converseIf : Awaits converseIf "if".toList := by
  intro before rest h
  unfold converseIf at h
  split at h
  · simp only [alone, ne_eq, Option.map_eq_none_iff] at h
    obtain ⟨after, rfl⟩ := isPrefix_of_phrase? h
    exact List.prefix_append "if".toList after
  · exact absurd rfl h

/-! ## Pieces in which nothing matches -/

/-- A text that starts with a character other than a blank, which is no part of a longer word. -/
def StartsOperand (s : List Char) : Prop :=
  ∃ c rest, s = c :: rest ∧ isBlank c = false ∧ (isWord c = true → startsWithWord rest = false)

/-- No blanks stand in front of an operand. -/
theorem StartsOperand.dropWhile_eq (h : StartsOperand s) : s.dropWhile isBlank = s := by
  obtain ⟨c, rest, rfl, hc, -⟩ := h
  exact List.dropWhile_cons_of_neg (Bool.eq_false_iff.1 hc)

/-- Whether a phrase does not come where a text does, whatever operand the text is followed by: the
phrase and the text differ, or the phrase goes on with more than a letter. -/
def clashes : (phrase s : List Char) → Bool
  | c :: d :: _, [] => isWord c && isWord d
  | c :: phrase, d :: s => c != d || clashes phrase s
  | _, _ => false

/-- A phrase that clashes with a text is not the beginning of it, whatever operand follows. -/
theorem not_isPrefix_of_clashes (h : clashes phrase s = true) (hrest : StartsOperand rest) :
    ¬ phrase <+: s ++ rest := by
  fun_induction clashes phrase s with
  | case1 c d phrase =>
    rw [Bool.and_eq_true] at h
    obtain ⟨x, r, rfl, -, hr⟩ := hrest
    rintro ⟨tail, htail⟩
    cases htail
    exact absurd h.2 (Bool.eq_false_iff.1 (hr h.1))
  | case2 c phrase d s ih =>
    rw [Bool.or_eq_true, bne_iff_ne] at h
    rw [List.cons_append, List.cons_prefix_cons]
    rintro ⟨hcd, hprefix⟩
    exact h.elim (fun hne => hne hcd) (fun hclash => ih hclash hprefix)
  | case3 => cases h

/-- Whether a phrase comes nowhere in a piece. -/
def lacksPhrase (phrase : List Char) : List Char → Bool
  | [] => true
  | c :: s => clashes phrase ((c :: s).dropWhile isBlank) && lacksPhrase phrase s

/-- A pattern does not match where its phrase clashes with what comes. -/
theorem Awaits.eq_none (hp : Awaits p phrase) (hs : clashes phrase (s.dropWhile isBlank) = true)
    (hrest : StartsOperand rest) : p before (s ++ rest) = none := by
  have hblanks : (s ++ rest).dropWhile isBlank = s.dropWhile isBlank ++ rest := by
    rw [List.dropWhile_append]
    split
    · next hempty => rw [List.isEmpty_iff.1 hempty, hrest.dropWhile_eq, List.nil_append]
    · rfl
  by_contra hmatch
  have hprefix := hp before _ hmatch
  rw [hblanks] at hprefix
  exact not_isPrefix_of_clashes hs hrest hprefix

/-- **A piece stays in front of an operand** if the phrase that the pattern waits for is not in it.
-/
theorem turns_of_lacksPhrase (hp : Awaits p phrase) (hs : lacksPhrase phrase s = true)
    (hrest : StartsOperand rest) : Turns p new before s s rest := by
  induction s generalizing before with
  | nil => exact turns_nil
  | cons c s ih =>
    rw [lacksPhrase, Bool.and_eq_true] at hs
    exact Turns.cons (hp.eq_none hs.1 hrest) (ih hs.2)

/-! ## Pieces that match -/

/-- A phrase between texts that do not go on with a word is found. -/
theorem phrase?_append (hbefore : startsWithWord before = false)
    (hrest : startsWithWord rest = false) : phrase? phrase before (phrase ++ rest) = some rest := by
  have hprefix : phrase.isPrefixOf (phrase ++ rest) = true :=
    List.isPrefixOf_iff_prefix.2 (List.prefix_append phrase rest)
  simp [phrase?, hbefore, hprefix, hrest]

/-- A phrase is matched together with the blanks around it. -/
theorem spaced_eq_some {lead : List Char} {c : Char} (hlead : lead = [] ∨ lead = [' '])
    (hc : isBlank c = false) (hbefore : lead = [] → startsWithWord before = false)
    (hrest : StartsOperand rest) :
    spaced (c :: phrase) before (lead ++ (c :: phrase) ++ [' '] ++ rest) =
      some (lead ++ (c :: phrase) ++ [' ']).length := by
  have hblank : ∀ x ∈ lead, isBlank x = true := by
    rcases hlead with rfl | rfl
    · exact fun x hx => absurd hx List.not_mem_nil
    · exact fun x hx => List.mem_singleton.1 hx ▸ rfl
  have hfree : startsWithWord (lead.reverse ++ before) = false := by
    rcases hlead with rfl | rfl
    · exact hbefore rfl
    · rfl
  have hafter : (' ' :: rest).takeWhile isBlank = [' '] := by
    obtain ⟨d, r, rfl, hd, -⟩ := hrest
    simp [show isBlank ' ' = true from rfl, hd]
  have hsplit : lead ++ (c :: phrase) ++ [' '] ++ rest =
      lead ++ ((c :: phrase) ++ (' ' :: rest)) := by
    simp
  rw [hsplit]
  simp only [spaced]
  rw [List.takeWhile_append_of_pos hblank, List.dropWhile_append_of_pos hblank, List.cons_append,
    List.takeWhile_cons_of_neg (Bool.eq_false_iff.1 hc), List.append_nil,
    List.dropWhile_cons_of_neg (Bool.eq_false_iff.1 hc), ← List.cons_append,
    phrase?_append hfree rfl, Option.map_some, hafter]
  simp only [List.length_append, List.length_cons, List.length_nil, Nat.add_assoc]

end NaturalDeduction.English
