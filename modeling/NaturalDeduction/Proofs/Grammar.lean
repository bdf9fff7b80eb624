import NaturalDeduction.Formula.Grammar
import NaturalDeduction.Proofs.Parentheses

/-!
# Derivations in the grammar of formulas

A text of the grammar with all the steps by which it is derived is a tree: a `TextTree`, made of a
`UnitTree` for each unit. Other than the formula of the text, which is what is left when parentheses
are forgotten, the tree has a node for every pair of them.

The grammar is not ambiguous: trees with the same text are the same (`TextTree.chars_injective`).
What decides between the two forms of a text is the search for the main connective. It passes over
every unit (`UnitTree.splitMain_append`), so it finds nothing in a unit and in the other texts the
connective after the first unit. Between the forms of a unit the first character decides.

The trees are just another form of the relation `Grammar.IsText` (`isText_iff_exists_tree`).
-/

namespace NaturalDeduction

/-! ## Characters that are passed over -/

/-- Whether a character is neither a parenthesis nor the beginning of a connective. -/
def isPlain (c : Char) : Bool :=
  c != '(' && c != ')' && c != 'V' && c != '&' && c != '-' && c != '<'

/-- The characters that are not plain, one by one. -/
theorem isPlain_iff {c : Char} : isPlain c = true ↔
    c ≠ '(' ∧ c ≠ ')' ∧ c ≠ 'V' ∧ c ≠ '&' ∧ c ≠ '-' ∧ c ≠ '<' := by
  simp [isPlain, and_assoc]

/-- Letters are plain. -/
theorem Letter.isPlain_char (a : Letter) : isPlain a.char = true := by
  obtain ⟨c, h⟩ := a
  rw [isPlain_iff]
  refine ⟨?_, ?_, ?_, ?_, ?_, ?_⟩ <;> (rintro rfl; exact absurd h (by decide))

/-- Predicate symbols are plain. -/
theorem PredicateSymbol.isPlain_char (P : PredicateSymbol) : isPlain P.char = true := by
  obtain ⟨c, h⟩ := P
  rw [isPlain_iff]
  refine ⟨?_, ?_, ?_, ?_, ?_, ?_⟩ <;> (rintro rfl; exact absurd h (by decide))

/-- Quantifiers are plain. -/
theorem Quantifier.isPlain_symbol (q : Quantifier) : isPlain q.symbol = true := by
  cases q <;> rfl

/-- Plain characters do not matter to balance. -/
theorem balancedFrom_plain {c : Char} (h : isPlain c = true) (n : Nat) (s : List Char) :
    balancedFrom n (c :: s) = balancedFrom n s := by
  obtain ⟨ho, hc, -⟩ := isPlain_iff.1 h
  exact balancedFrom_other ho hc n s

/-- No connective begins with a plain character. -/
theorem read?_plain {c : Char} (h : isPlain c = true) (s : List Char) :
    Connective.read? (c :: s) = none := by
  obtain ⟨-, -, hor, hand, himp, heqv⟩ := isPlain_iff.1 h
  unfold Connective.read?
  split
  · next heq => cases heq; exact absurd rfl hor
  · next heq => cases heq; exact absurd rfl hand
  · next heq => cases heq; exact absurd rfl himp
  · next heq => cases heq; exact absurd rfl heqv
  · rfl

/-- The search for a main connective passes over plain characters. -/
theorem splitMainFrom_plain {c : Char} (h : isPlain c = true) (d : Int) (s : List Char) :
    splitMainFrom d (c :: s) = (splitMainFrom d s).map (cutAfter [c]) := by
  obtain ⟨ho, hc, -⟩ := isPlain_iff.1 h
  exact splitMainFrom_other ho hc (.inr (read?_plain h s))

/-! ## Letters in parentheses -/

/-- A term with further letters has a comma behind the first. -/
theorem Term.chars_cons (a b : Letter) (bs : List Letter) :
    (Term.mk a (b :: bs)).chars = a.char :: ',' :: (Term.mk b bs).chars := rfl

/-- The letters of a term are read back from its text. -/
theorem Term.read?_chars : (t : Term) → Term.read? t.chars = some t
  | ⟨a, []⟩ => by simp [Term.chars, writeLetters, Term.read?, Term.ofLetter]
  | ⟨a, b :: bs⟩ => by
      rw [Term.chars_cons, Term.read?, if_pos rfl, Letter.ofChar?_char,
        Term.read?_chars ⟨b, bs⟩]
      rfl
termination_by t => t.tail.length

/-- What is read as a term is the text of the term. -/
theorem Term.eq_of_read? {s : List Char} {t : Term} (h : Term.read? s = some t) :
    s = t.chars := by
  fun_induction Term.read? s generalizing t with
  | case1 => cases h
  | case2 c =>
    obtain ⟨a, ha, rfl⟩ := Option.map_eq_some_iff.1 h
    rw [Letter.ofChar?_eq_some.1 ha]
    rfl
  | case3 c s a u hu ha ih =>
    cases h
    rw [Letter.ofChar?_eq_some.1 ha, ih hu]
    rfl
  | case4 => cases h
  | case5 => cases h

/-- Terms with the same text are the same. -/
theorem Term.chars_injective {t u : Term} (h : t.chars = u.chars) : t = u := by
  have := Term.read?_chars u
  rw [← h, Term.read?_chars] at this
  exact Option.some.inj this

/-- Terms have no parentheses. -/
theorem Term.balanced_chars : (t : Term) → balanced t.chars = true
  | ⟨a, []⟩ => by
      rw [Term.chars, writeLetters, balanced, balancedFrom_plain a.isPlain_char]
      rfl
  | ⟨a, b :: bs⟩ => by
      rw [Term.chars_cons, balanced, balancedFrom_plain a.isPlain_char,
        balancedFrom_plain (by decide)]
      exact Term.balanced_chars ⟨b, bs⟩
termination_by t => t.tail.length

/-- A variable that is read is the whole text. -/
theorem eq_of_readVariable? {s : List Char} {a : Letter} (h : readVariable? s = some a) :
    s = [a.char] := by
  unfold readVariable? at h
  split at h
  · rw [Letter.ofChar?_eq_some.1 h]
  · cases h

/-- A predicate that is read is the whole text: its symbol, and a term in parentheses. -/
theorem eq_of_readApplication? {s : List Char} {P : PredicateSymbol} {t : Term}
    (h : readApplication? s = some (P, t)) : s = P.char :: '(' :: (t.chars ++ [')']) := by
  unfold readApplication? at h
  split at h
  · next c d s =>
    split at h
    · next hcond =>
      obtain ⟨rfl, hlast⟩ := hcond
      obtain ⟨u, rfl⟩ := List.getLast?_eq_some_iff.1 hlast
      rw [List.dropLast_concat] at h
      split at h
      · next hP ht =>
        cases h
        rw [PredicateSymbol.ofChar?_eq_some.1 hP, ← Term.eq_of_read? ht]
      · cases h
    · cases h
  · cases h

/-- The text of a predicate is read as that predicate. -/
theorem readApplication?_chars (P : PredicateSymbol) (t : Term) :
    readApplication? (P.char :: '(' :: (t.chars ++ [')'])) = some (P, t) := by
  simp [readApplication?, Term.read?_chars]

/-! ## Derivation trees -/

namespace Grammar

mutual

/-- A derivation of a unit. -/
inductive UnitTree where
  /-- A variable. -/
  | letter (a : Letter)
  /-- A predicate symbol with letters. -/
  | application (P : PredicateSymbol) (t : Term)
  /-- A text in parentheses. -/
  | enclosed (d : TextTree)
  /-- A negated unit. -/
  | negation (d : UnitTree)
  /-- A quantifier, its variable and its scope. -/
  | quantifier (q : Quantifier) (v : Letter) (d : TextTree)

/-- A derivation of a text. -/
inductive TextTree where
  /-- A unit. -/
  | unit (d : UnitTree)
  /-- A unit, a connective and a text. -/
  | binary (op : Connective) (d : UnitTree) (e : TextTree)

end

mutual

/-- The text of a unit. -/
def UnitTree.chars : UnitTree → List Char
  | .letter a => [a.char]
  | .application P t => P.char :: '(' :: (t.chars ++ [')'])
  | .enclosed d => '(' :: (d.chars ++ [')'])
  | .negation d => '~' :: d.chars
  | .quantifier q v d => q.symbol :: v.char :: '(' :: (d.chars ++ [')'])

/-- The text that is derived. -/
def TextTree.chars : TextTree → List Char
  | .unit d => d.chars
  | .binary op d e => d.chars ++ op.symbol ++ e.chars

end

mutual

/-- The formula of a unit. -/
def UnitTree.formula : UnitTree → Formula
  | .letter a => .atom a
  | .application P t => .application P t
  | .enclosed d => d.formula
  | .negation d => .not d.formula
  | .quantifier q v d => .quantified q v d.formula

/-- The formula that is left when parentheses are forgotten. -/
def TextTree.formula : TextTree → Formula
  | .unit d => d.formula
  | .binary op d e => .binary op d.formula e.formula

end

mutual

/-- A unit of the relation has a tree. -/
theorem exists_unitTree {s : List Char} {f : Formula} :
    IsUnit s f → ∃ d : UnitTree, d.chars = s ∧ d.formula = f
  | .letter a => ⟨.letter a, rfl, rfl⟩
  | .application P t => ⟨.application P t, rfl, rfl⟩
  | .enclosed h => by
      obtain ⟨d, rfl, rfl⟩ := exists_textTree h
      exact ⟨.enclosed d, rfl, rfl⟩
  | .negation h => by
      obtain ⟨d, rfl, rfl⟩ := exists_unitTree h
      exact ⟨.negation d, rfl, rfl⟩
  | .quantifier q v h => by
      obtain ⟨d, rfl, rfl⟩ := exists_textTree h
      exact ⟨.quantifier q v d, rfl, rfl⟩

/-- A text of the relation has a tree. -/
theorem exists_textTree {s : List Char} {f : Formula} :
    IsText s f → ∃ d : TextTree, d.chars = s ∧ d.formula = f
  | .unit h => by
      obtain ⟨d, rfl, rfl⟩ := exists_unitTree h
      exact ⟨.unit d, rfl, rfl⟩
  | .binary op hs ht => by
      obtain ⟨d, rfl, rfl⟩ := exists_unitTree hs
      obtain ⟨e, rfl, rfl⟩ := exists_textTree ht
      exact ⟨.binary op d e, rfl, rfl⟩

end

mutual

/-- What a unit derives is a unit of the grammar. -/
theorem UnitTree.isUnit : (d : UnitTree) → IsUnit d.chars d.formula
  | .letter a => .letter a
  | .application P t => .application P t
  | .enclosed d => .enclosed d.isText
  | .negation d => .negation d.isUnit
  | .quantifier q v d => .quantifier q v d.isText

/-- What is derived is a text of the grammar. -/
theorem TextTree.isText : (d : TextTree) → IsText d.chars d.formula
  | .unit d => .unit d.isUnit
  | .binary op d e => .binary op d.isUnit e.isText

end

/-- The relation and the trees say the same. -/
theorem isText_iff_exists_tree {s : List Char} {f : Formula} :
    IsText s f ↔ ∃ d : TextTree, d.chars = s ∧ d.formula = f := by
  constructor
  · exact exists_textTree
  · rintro ⟨d, rfl, rfl⟩
    exact d.isText

/-! ## Parentheses and connectives in derived texts -/

/-- A balanced text in parentheses is balanced. -/
theorem balanced_enclosed {s : List Char} (h : balanced s = true) :
    balanced ('(' :: (s ++ [')'])) = true := by
  rw [balanced, balancedFrom_open, Nat.zero_add]
  exact balancedFrom_append (m := 0) h 1 [')']

mutual

/-- The text of a unit is balanced. -/
theorem UnitTree.balanced_chars : (d : UnitTree) → balanced d.chars = true
  | .letter a => by
      rw [UnitTree.chars, balanced, balancedFrom_plain a.isPlain_char]
      rfl
  | .application P t => by
      rw [UnitTree.chars, balanced, balancedFrom_plain P.isPlain_char]
      exact balanced_enclosed t.balanced_chars
  | .enclosed d => balanced_enclosed d.balanced_chars
  | .negation d => by
      rw [UnitTree.chars, balanced, balancedFrom_plain (by decide)]
      exact d.balanced_chars
  | .quantifier q v d => by
      rw [UnitTree.chars, balanced, balancedFrom_plain q.isPlain_symbol,
        balancedFrom_plain v.isPlain_char]
      exact balanced_enclosed d.balanced_chars

/-- The parentheses of a derived text have their partners. -/
theorem TextTree.balanced_chars : (d : TextTree) → balanced d.chars = true
  | .unit d => d.balanced_chars
  | .binary op d e =>
      balanced_append (balanced_append d.balanced_chars (balanced_symbol op)) e.balanced_chars

end

/-- The search for the main connective passes over a unit. -/
theorem UnitTree.splitMain_append : (d : UnitTree) → (s : List Char) →
    splitMain (d.chars ++ s) = (splitMain s).map (cutAfter d.chars)
  | .letter a, s => splitMainFrom_plain a.isPlain_char 0 s
  | .application P t, s => by
      have henc := splitMainFrom_enclosed t.balanced_chars s
      simp only [chars, splitMain, List.cons_append, List.append_assoc, List.nil_append]
      rw [splitMainFrom_plain P.isPlain_char, henc, map_cutAfter_cutAfter]
      rfl
  | .enclosed d, s => by
      have henc := splitMainFrom_enclosed d.balanced_chars s
      simp only [chars, splitMain, List.cons_append, List.append_assoc, List.nil_append]
      exact henc
  | .negation d, s => by
      have ih := d.splitMain_append s
      simp only [chars, splitMain, List.cons_append] at ih ⊢
      rw [splitMainFrom_plain (by decide), ih, map_cutAfter_cutAfter]
      rfl
  | .quantifier q v d, s => by
      have henc := splitMainFrom_enclosed d.balanced_chars s
      simp only [chars, splitMain, List.cons_append, List.append_assoc, List.nil_append]
      rw [splitMainFrom_plain q.isPlain_symbol, splitMainFrom_plain v.isPlain_char, henc,
        map_cutAfter_cutAfter, map_cutAfter_cutAfter]
      rfl

/-- A unit has no main connective. -/
theorem UnitTree.splitMain_chars (d : UnitTree) : splitMain d.chars = none := by
  have := d.splitMain_append []
  rw [List.append_nil] at this
  rw [this]
  rfl

/-- A connective at the very front splits the text there. -/
theorem splitMain_symbol (op : Connective) (s : List Char) :
    splitMain (op.symbol ++ s) = some ([], op, s) := by
  cases op <;> rfl

/-- The main connective of a text comes after its first unit. -/
theorem splitMain_binary (op : Connective) (d : UnitTree) (e : TextTree) :
    splitMain (TextTree.binary op d e).chars = some (d.chars, op, e.chars) := by
  rw [TextTree.chars, List.append_assoc, d.splitMain_append, splitMain_symbol]
  simp [cutAfter]

/-- A text without main connective is a unit. -/
theorem TextTree.exists_unit {d : TextTree} (h : splitMain d.chars = none) :
    ∃ e : UnitTree, d = .unit e := by
  cases d with
  | unit e => exact ⟨e, rfl⟩
  | binary op d e =>
    rw [splitMain_binary] at h
    cases h

/-! ## The form of a derived text -/

/-- A text is not atomic if its first character is neither a letter nor a predicate symbol. -/
theorem read_eq_none {c : Char} (ha : Letter.ofChar? c = none)
    (hP : PredicateSymbol.ofChar? c = none) (s : List Char) :
    readVariable? (c :: s) = none ∧ readApplication? (c :: s) = none := by
  constructor
  · cases s with
    | nil => exact ha
    | cons d s => rfl
  · cases s with
    | nil => rfl
    | cons d s =>
      simp only [readApplication?, hP]
      split <;> rfl

/-- The form of a unit at its top level. A text in parentheses has none as long as they enclose
it. -/
def UnitTree.form : UnitTree → Option Split
  | .letter a => some (.letter a)
  | .application P t => some (.application P t)
  | .enclosed _ => none
  | .negation d => some (.negation d.chars)
  | .quantifier q v d => some (.quantifier q v ('(' :: (d.chars ++ [')'])))

/-- The form of a text at its top level. -/
def TextTree.form : TextTree → Option Split
  | .unit d => d.form
  | .binary op d e => some (.binary op d.chars e.chars)

/-- Splitting finds the form of a unit. -/
theorem UnitTree.split_chars (d : UnitTree) : split d.chars = d.form := by
  have hmain := d.splitMain_chars
  cases d with
  | letter a => simp [chars, form, split, readVariable?]
  | application P t =>
    have hvar : readVariable? (UnitTree.application P t).chars = none := rfl
    have happ : readApplication? (UnitTree.application P t).chars = some (P, t) :=
      readApplication?_chars P t
    simp only [split, hvar, happ, form]
  | enclosed d =>
    obtain ⟨hvar, happ⟩ := read_eq_none (c := '(') rfl rfl (d.chars ++ [')'])
    simp only [chars] at hmain
    simp only [split, chars, hvar, happ, hmain, form]
    cases d.chars ++ [')'] <;> rfl
  | negation d =>
    obtain ⟨hvar, happ⟩ := read_eq_none (c := '~') rfl rfl d.chars
    simp only [chars] at hmain
    simp only [split, chars, hvar, happ, hmain, form]
    rfl
  | quantifier q v d =>
    have hq : Letter.ofChar? q.symbol = none ∧ PredicateSymbol.ofChar? q.symbol = none := by
      cases q <;> exact ⟨rfl, rfl⟩
    obtain ⟨hvar, happ⟩ := read_eq_none hq.1 hq.2 (v.char :: '(' :: (d.chars ++ [')']))
    have htilde : q.symbol ≠ '~' := by cases q <;> decide
    have hread : Quantifier.ofChar? q.symbol = some q := by cases q <;> rfl
    simp only [chars] at hmain
    simp only [split, chars, hvar, happ, hmain, form, splitUnary?, if_neg htilde, splitQuantifier?,
      hread, Letter.ofChar?_char, stripPair?_enclosed d.balanced_chars, Option.isSome_some, if_true]

/-- Splitting finds the form of a text. -/
theorem TextTree.split_chars (d : TextTree) : split d.chars = d.form := by
  cases d with
  | unit d => exact d.split_chars
  | binary op d e =>
    have hmain := splitMain_binary op d e
    -- an atomic text is a unit, and in a unit there is no main connective
    have hvar : readVariable? (TextTree.binary op d e).chars = none := by
      cases hread : readVariable? (TextTree.binary op d e).chars with
      | none => rfl
      | some a =>
        rw [eq_of_readVariable? hread] at hmain
        have := (UnitTree.letter a).splitMain_chars
        rw [UnitTree.chars, hmain] at this
        cases this
    have happ : readApplication? (TextTree.binary op d e).chars = none := by
      cases hread : readApplication? (TextTree.binary op d e).chars with
      | none => rfl
      | some r =>
        obtain ⟨P, t⟩ := r
        rw [eq_of_readApplication? hread] at hmain
        have := (UnitTree.application P t).splitMain_chars
        rw [UnitTree.chars, hmain] at this
        cases this
    simp only [split, hvar, happ, hmain, form]

/-! ## The grammar is not ambiguous -/

/-- Units with the same text have the same form. -/
theorem UnitTree.form_eq {d e : UnitTree} (h : d.chars = e.chars) : d.form = e.form := by
  rw [← d.split_chars, ← e.split_chars, h]

mutual

/-- Units with the same text are derived in the same way. -/
theorem UnitTree.chars_injective : (d e : UnitTree) → d.chars = e.chars → d = e
  | .letter a, e, h => by
      have hform := UnitTree.form_eq h
      cases e with
      | letter b =>
        simp only [UnitTree.form, Option.some.injEq, Split.letter.injEq] at hform
        rw [hform]
      | _ => simp [UnitTree.form] at hform
  | .application P t, e, h => by
      have hform := UnitTree.form_eq h
      cases e with
      | application Q u =>
        simp only [UnitTree.form, Option.some.injEq, Split.application.injEq] at hform
        rw [hform.1, hform.2]
      | _ => simp [UnitTree.form] at hform
  | .enclosed d, e, h => by
      have hform := UnitTree.form_eq h
      cases e with
      | enclosed e =>
        have henc := List.append_cancel_right (List.cons.inj h).2
        rw [TextTree.chars_injective d e henc]
      | _ => simp [UnitTree.form] at hform
  | .negation d, e, h => by
      have hform := UnitTree.form_eq h
      cases e with
      | negation e =>
        rw [UnitTree.chars_injective d e (List.cons.inj h).2]
      | _ => simp [UnitTree.form] at hform
  | .quantifier q v d, e, h => by
      have hform := UnitTree.form_eq h
      cases e with
      | quantifier r w e =>
        simp only [UnitTree.form, Option.some.injEq, Split.quantifier.injEq] at hform
        obtain ⟨rfl, rfl, hscope⟩ := hform
        have henc := List.append_cancel_right (List.cons.inj hscope).2
        rw [TextTree.chars_injective d e henc]
      | _ => simp [UnitTree.form] at hform

/-- **The grammar is not ambiguous**: texts with the same characters are derived in the same
way. -/
theorem TextTree.chars_injective : (d e : TextTree) → d.chars = e.chars → d = e
  | .unit d, e, h => by
      have hmain := d.splitMain_chars
      cases e with
      | unit e => rw [UnitTree.chars_injective d e h]
      | binary op e e' =>
        rw [← TextTree.chars, h, splitMain_binary] at hmain
        cases hmain
  | .binary op d d', e, h => by
      have hmain := splitMain_binary op d d'
      cases e with
      | unit e =>
        rw [h, TextTree.chars, e.splitMain_chars] at hmain
        cases hmain
      | binary op' e e' =>
        rw [h, splitMain_binary, Option.some.injEq, Prod.mk.injEq, Prod.mk.injEq] at hmain
        obtain ⟨hleft, rfl, hright⟩ := hmain
        rw [UnitTree.chars_injective d e hleft.symm, TextTree.chars_injective d' e' hright.symm]

end

/-- A text is the text of one formula only. -/
theorem IsText.unique {s : List Char} {f g : Formula} (hf : IsText s f) (hg : IsText s g) :
    f = g := by
  obtain ⟨d, rfl, rfl⟩ := exists_textTree hf
  obtain ⟨e, he, rfl⟩ := exists_textTree hg
  rw [TextTree.chars_injective d e he.symm]

end Grammar

end NaturalDeduction
