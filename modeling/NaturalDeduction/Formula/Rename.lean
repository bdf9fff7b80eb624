import NaturalDeduction.Formula.Printer

/-!
# Letters of a formula and their renaming

A letter may occur in a formula as a propositional variable, as a term of a predicate and as the
variable of a quantifier. `Formula.rename` puts one letter for another at all of these places, bound
or not, which is what happens to the letters of the written form (`Formula.chars_rename`).

The file also tells the kinds of formulas apart that the theory of the rules speaks about: without
quantifiers, without predicates, with single letters as terms, and with no letter in two roles.
-/

namespace NaturalDeduction

/-- The letter `c` in place of the letter `v`. -/
def Letter.rename (v c a : Letter) : Letter :=
  if a = v then c else a

/-- The letter `c` in place of the letter `v` in a term. -/
def Term.rename (v c : Letter) (t : Term) : Term :=
  ⟨Letter.rename v c t.head, t.tail.map (Letter.rename v c)⟩

namespace Formula

/-- The letter `c` in place of the letter `v` wherever it occurs. -/
def rename (v c : Letter) : Formula → Formula
  | atom a => atom (Letter.rename v c a)
  | predicate P t ts => predicate P (t.rename v c) (ts.map (Term.rename v c))
  | not f => not (f.rename v c)
  | binary op l r => binary op (l.rename v c) (r.rename v c)
  | quantified q x f => quantified q (Letter.rename v c x) (f.rename v c)

/-- The propositional variables, as often as they occur. -/
def variableLetters : Formula → List Letter
  | atom a => [a]
  | predicate _ _ _ => []
  | not f => f.variableLetters
  | binary _ l r => l.variableLetters ++ r.variableLetters
  | quantified _ _ f => f.variableLetters

/-- The letters that stand for things: terms and variables of quantifiers, as often as they
occur. -/
def objectLetters : Formula → List Letter
  | atom _ => []
  | predicate _ t ts => t.head :: termLetters t ts
  | not f => f.objectLetters
  | binary _ l r => l.objectLetters ++ r.objectLetters
  | quantified _ x f => x :: f.objectLetters

/-- No letter is used both as a propositional variable and for things. -/
def SeparatesRoles (f : Formula) : Prop :=
  ∀ a ∈ f.variableLetters, a ∉ f.objectLetters

instance (f : Formula) : Decidable f.SeparatesRoles :=
  inferInstanceAs (Decidable (∀ a ∈ f.variableLetters, a ∉ f.objectLetters))

/-- Whether there is no quantifier in a formula. -/
def isQuantifierFree : Formula → Bool
  | atom _ => true
  | predicate _ _ _ => true
  | not f => f.isQuantifierFree
  | binary _ l r => l.isQuantifierFree && r.isQuantifierFree
  | quantified _ _ _ => false

/-- Whether a formula is made of propositional variables and connectives alone. -/
def isPropositional : Formula → Bool
  | atom _ => true
  | predicate _ _ _ => false
  | not f => f.isPropositional
  | binary _ l r => l.isPropositional && r.isPropositional
  | quantified _ _ _ => false

/-- Whether every term of a predicate is a single letter. -/
def hasSingleTerms : Formula → Bool
  | atom _ => true
  | predicate _ t ts => (t :: ts).all fun t => t.tail.isEmpty
  | not f => f.hasSingleTerms
  | binary _ l r => l.hasSingleTerms && r.hasSingleTerms
  | quantified _ _ f => f.hasSingleTerms

/-- The formula with every term cut at its commas into single letters. -/
def cutTerms : Formula → Formula
  | atom a => atom a
  | predicate P t ts => predicate P (.ofLetter t.head) ((termLetters t ts).map .ofLetter)
  | not f => not f.cutTerms
  | binary op l r => binary op l.cutTerms r.cutTerms
  | quantified q x f => quantified q x f.cutTerms

/-- There are no terms without predicates. -/
theorem hasSingleTerms_of_isPropositional {f : Formula} (h : f.isPropositional = true) :
    f.hasSingleTerms = true := by
  induction f with
  | atom a => rfl
  | predicate P t ts => cases h
  | not f ih => exact ih h
  | binary op l r ihl ihr =>
    rw [isPropositional, Bool.and_eq_true] at h
    rw [hasSingleTerms, ihl h.1, ihr h.2]
    rfl
  | quantified q x f ih => cases h

/-- Cutting terms at their commas leaves atomic formulas atomic, and no others. -/
@[simp] theorem isAtomic_cutTerms (f : Formula) : f.cutTerms.isAtomic = f.isAtomic := by
  cases f <;> rfl

/-- Renaming leaves atomic formulas atomic, and no others. -/
@[simp] theorem isAtomic_rename (v c : Letter) (f : Formula) :
    (f.rename v c).isAtomic = f.isAtomic := by
  cases f <;> rfl

/-- The letters of terms of one letter. -/
theorem termLetters_ofLetter (a : Letter) (as : List Letter) :
    termLetters (.ofLetter a) (as.map .ofLetter) = as := by
  have h : (as.map Term.ofLetter).flatMap Term.letters = as := by
    induction as with
    | nil => rfl
    | cons a as ih => simp [Term.letters, Term.ofLetter, ih]
  exact h

/-- Cutting terms does not change the written form. -/
theorem chars_cutTerms (sp : Spacing) (f : Formula) : f.cutTerms.chars sp = f.chars sp := by
  induction f with
  | atom a => rfl
  | predicate P t ts =>
    rw [cutTerms, chars_predicate, chars_predicate, writeTerms, termLetters_ofLetter]
    rfl
  | not f ih => simp [cutTerms, operandChars, ih]
  | binary op l r ihl ihr => simp [cutTerms, operandChars, ihl, ihr]
  | quantified q x f ih => simp [cutTerms, ih]

end Formula

/-! ## Renaming in the written form -/

/-- The character of `c` in place of that of `v`. -/
def Letter.renameChar (v c : Letter) (x : Char) : Char :=
  if x = v.char then c.char else x

/-- A letter is renamed like its character. -/
theorem Letter.renameChar_char (v c a : Letter) :
    Letter.renameChar v c a.char = (Letter.rename v c a).char := by
  unfold renameChar rename
  by_cases h : a = v
  · simp [h]
  · have : a.char ≠ v.char := by
      intro hc
      exact h (by cases a; cases v; simpa using hc)
    simp [h, this]

/-- Characters that are not lowercase letters stay. -/
theorem Letter.renameChar_of_not_isLower (v c : Letter) {x : Char} (h : x.isLower = false) :
    Letter.renameChar v c x = x := by
  unfold renameChar
  split
  · next hx =>
    have := v.isLower
    rw [← hx, h] at this
    cases this
  · rfl

/-- An uppercase letter is not a lowercase one. -/
theorem isLower_of_isUpper {c : Char} (h : c.isUpper = true) : c.isLower = false := by
  have hu : c.val ≥ 'A'.val ∧ c.val ≤ 'Z'.val := of_decide_eq_true h
  have hl : ¬ c.val ≥ 'a'.val := by
    intro hl
    have h1 := UInt32.le_iff_toNat_le.1 hu.2
    have h2 := UInt32.le_iff_toNat_le.1 hl
    exact absurd (Nat.le_trans h2 h1) (by decide)
  have hd : c.isLower = (decide (c.val ≥ 'a'.val) && decide (c.val ≤ 'z'.val)) := rfl
  rw [hd, decide_eq_false hl, Bool.false_and]

/-- A predicate symbol is not a lowercase letter. -/
theorem PredicateSymbol.isLower_char (P : PredicateSymbol) : P.char.isLower = false := by
  have h := P.isPredicate
  simp only [isPredicateChar, Bool.and_eq_true] at h
  exact isLower_of_isUpper h.1.1.1

namespace Formula

/-- Renaming the characters of written letters is writing the renamed letters: commas stay. -/
theorem map_renameChar_writeLetters (v c a : Letter) (as : List Letter) :
    (writeLetters a as).map (Letter.renameChar v c) =
      writeLetters (Letter.rename v c a) (as.map (Letter.rename v c)) := by
  induction as generalizing a with
  | nil => simp [writeLetters, Letter.renameChar_char]
  | cons b bs ih =>
    have hcomma := Letter.renameChar_of_not_isLower v c (x := ',') (by decide)
    simp [writeLetters, Letter.renameChar_char, hcomma, ih]

/-- The letters of renamed terms are the renamed letters of the terms. -/
theorem termLetters_rename (v c : Letter) (t : Term) (ts : List Term) :
    termLetters (t.rename v c) (ts.map (Term.rename v c)) =
      (termLetters t ts).map (Letter.rename v c) := by
  simp only [termLetters, Term.rename, List.map_append, List.append_cancel_left_eq]
  induction ts with
  | nil => rfl
  | cons u us ih => simpa [Term.letters, Term.rename] using ih

/-- A connective has no letter that could be renamed. -/
theorem map_renameChar_connective (v c : Letter) (sp : Spacing) (op : Connective) :
    (op.chars sp).map (Letter.renameChar v c) = op.chars sp := by
  have hall : (op.chars sp).all (fun x => !x.isLower) = true := by
    cases sp <;> cases op <;> rfl
  have h : ∀ x ∈ op.chars sp, x.isLower = false := by
    simpa [List.all_eq_true] using hall
  calc (op.chars sp).map (Letter.renameChar v c)
      = (op.chars sp).map id :=
        List.map_congr_left fun x hx => Letter.renameChar_of_not_isLower v c (h x hx)
    _ = op.chars sp := List.map_id _

/-- Renaming a letter in a formula is renaming it in the written form. -/
theorem chars_rename (sp : Spacing) (v c : Letter) (f : Formula) :
    (f.rename v c).chars sp = (f.chars sp).map (Letter.renameChar v c) := by
  have hopen := Letter.renameChar_of_not_isLower v c (x := '(') (by decide)
  have hclose := Letter.renameChar_of_not_isLower v c (x := ')') (by decide)
  have htilde := Letter.renameChar_of_not_isLower v c (x := '~') (by decide)
  have operand : ∀ g : Formula, (g.rename v c).chars sp = (g.chars sp).map (Letter.renameChar v c) →
      (g.rename v c).operandChars sp = (g.operandChars sp).map (Letter.renameChar v c) := by
    intro g hg
    unfold operandChars
    rw [isAtomic_rename]
    split
    · exact hg
    · simp [hg, hopen, hclose]
  induction f with
  | atom a => simp [rename, Letter.renameChar_char]
  | predicate P t ts =>
    have hP := P.isLower_char
    have hhead : (t.rename v c).head = Letter.rename v c t.head := rfl
    simp [rename, writeTerms, map_renameChar_writeLetters, termLetters_rename, hopen, hclose,
      Letter.renameChar_of_not_isLower v c hP, hhead]
  | not f ih => simp [rename, operand f ih, htilde]
  | binary op l r ihl ihr =>
    simp [rename, operand l ihl, operand r ihr, map_renameChar_connective]
  | quantified q x f ih =>
    have hq : q.symbol.isLower = false := by cases q <;> decide
    simp [rename, ih, hopen, hclose, Letter.renameChar_char,
      Letter.renameChar_of_not_isLower v c hq]

end Formula

end NaturalDeduction
