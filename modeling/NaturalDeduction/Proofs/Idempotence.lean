import Mathlib.Algebra.Group.Nat.Defs
import NaturalDeduction.Proofs.RoundTrip

/-!
# Reading the canonical form again

A formula that has been read has single letters as terms and is not nested too deep, so its written
forms are read back as the same formula, unless they are too long. They may be: the canonical form
puts parentheses around every operand that is not atomic, whether or not the text needed them. The
limit on the length is put to the text that is given, and a text within it may have a canonical form
beyond it (`Formula.parse_canonical_doubled`).

So `Formula.parse_canonical_of_parse` comes in two halves: the written forms are read back if the
canonical one is within the limit, and refused for their length if it is not. At most one pair of
parentheses is added for an operator, so the canonical form has less than three times as many
characters as the text (`Grammar.canonicalLength_add_two_le`), and texts of up to 1366 characters
are always in the first half.
-/

namespace NaturalDeduction

/-! ## Terms that are read -/

namespace Grammar

mutual

/-- Predicates of a unit have one letter in each term. -/
theorem UnitTree.hasSingleTerms_formula : (d : UnitTree) → d.formula.hasSingleTerms = true
  | .letter _ => rfl
  | .application P t => by
      simp [UnitTree.formula, Formula.application, Formula.hasSingleTerms, Term.ofLetter]
  | .enclosed d => d.hasSingleTerms_formula
  | .negation d => d.hasSingleTerms_formula
  | .quantifier _ _ d => d.hasSingleTerms_formula

/-- Predicates of a derived formula have one letter in each term. -/
theorem TextTree.hasSingleTerms_formula : (d : TextTree) → d.formula.hasSingleTerms = true
  | .unit d => d.hasSingleTerms_formula
  | .binary _ d e => by
      rw [TextTree.formula, Formula.hasSingleTerms, d.hasSingleTerms_formula,
        e.hasSingleTerms_formula]
      rfl

end

/-- The terms of a formula that a text derives have one letter each. -/
theorem hasSingleTerms_of_isText {s : List Char} {f : Formula} (h : IsText s f) :
    f.hasSingleTerms = true := by
  obtain ⟨d, -, rfl⟩ := exists_textTree h
  exact d.hasSingleTerms_formula

end Grammar

/-! ## The length of the canonical form -/

namespace Formula

/-- A negation has at most three characters more than what it negates. -/
theorem canonicalLength_not_le (f : Formula) :
    (not f).canonicalLength ≤ f.canonicalLength + 3 := by
  rw [canonicalLength]
  split <;> omega

/-- Apart from the sign, a connective has at most four characters more than its operands. -/
theorem canonicalLength_binary_le (op : Connective) (l r : Formula) :
    (binary op l r).canonicalLength ≤
      l.canonicalLength + op.symbol.length + r.canonicalLength + 4 := by
  rw [canonicalLength]
  split <;> split <;> omega

/-- A predicate adds its symbol and two parentheses to its terms. -/
theorem canonicalLength_application (P : PredicateSymbol) (t : Term) :
    (application P t).canonicalLength = t.chars.length + 3 := by
  rw [← length_chars_tight, application, chars_predicate, writeTerms, termLetters_ofLetter]
  simp [Term.chars, Term.ofLetter]

end Formula

namespace Grammar

mutual

/-- The canonical form of a unit is at most three times as long as its text, less two. -/
theorem UnitTree.canonicalLength_add_two_le :
    (d : UnitTree) → d.formula.canonicalLength + 2 ≤ 3 * d.chars.length
  | .letter _ => Nat.le_refl 3
  | .application P t => by
      have hlength := Formula.canonicalLength_application P t
      simp only [UnitTree.formula, UnitTree.chars, List.length_cons, List.length_append,
        List.length_nil]
      omega
  | .enclosed d => by
      have ih := d.canonicalLength_add_two_le
      simp only [UnitTree.formula, UnitTree.chars, List.length_cons, List.length_append,
        List.length_nil]
      omega
  | .negation d => by
      have ih := d.canonicalLength_add_two_le
      have hnot := Formula.canonicalLength_not_le d.formula
      simp only [UnitTree.formula, UnitTree.chars, List.length_cons]
      omega
  | .quantifier q v d => by
      have ih := d.canonicalLength_add_two_le
      simp only [UnitTree.formula, Formula.canonicalLength, UnitTree.chars, List.length_cons,
        List.length_append, List.length_nil]
      omega

/-- The canonical form of a derived formula is at most three times as long as its text, less two. -/
theorem TextTree.canonicalLength_add_two_le :
    (d : TextTree) → d.formula.canonicalLength + 2 ≤ 3 * d.chars.length
  | .unit d => d.canonicalLength_add_two_le
  | .binary op d e => by
      have ihd := d.canonicalLength_add_two_le
      have ihe := e.canonicalLength_add_two_le
      have hbinary := Formula.canonicalLength_binary_le op d.formula e.formula
      -- the sign of the connective pays for the parentheses around the whole
      have hsign := op.symbol_length_pos
      simp only [TextTree.formula, TextTree.chars, List.length_append]
      omega

end

/-- **The canonical form has less than three times as many characters as the text.** -/
theorem canonicalLength_add_two_le {s : List Char} {f : Formula} (h : IsText s f) :
    f.canonicalLength + 2 ≤ 3 * s.length := by
  obtain ⟨d, rfl, rfl⟩ := exists_textTree h
  exact d.canonicalLength_add_two_le

end Grammar

/-! ## Reading again -/

namespace Formula

/-- A text is refused for its length before anything else is looked at. -/
theorem parseChars_of_tooLong {limits : Limits} {f : Formula}
    (hlength : limits.maxLength < f.canonicalLength) (sp : Spacing) :
    parseChars limits (f.chars sp) = .error (.tooLong limits.maxLength) := by
  have hstripped : (Text.removeBlanks (f.chars sp)).length = f.canonicalLength := by
    rw [removeBlanks_chars, length_chars_tight]
  simp only [parseChars, hstripped, if_pos hlength]

/-- Both written forms are refused if the canonical one is too long. -/
theorem parse_written_of_tooLong {f : Formula} (hlength : 4096 < f.canonicalLength) :
    parse f.canonical = .error (.tooLong 4096) ∧ parse f.pretty = .error (.tooLong 4096) := by
  have hlimit : Limits.standard.maxLength < f.canonicalLength := by
    show (4096 : Int) < f.canonicalLength
    omega
  have hrefused := parseChars_of_tooLong hlimit
  simp only [parse, canonical, pretty, String.toList_ofList]
  exact ⟨hrefused .tight, hrefused .wide⟩

/-- The written forms of a formula that was read are read back, if they are not too long. -/
theorem parseChars_chars_of_parseChars {limits : Limits} {s : List Char} {f : Formula}
    (h : parseChars limits s = .ok f) (hlength : (f.canonicalLength : Int) ≤ limits.maxLength)
    (sp : Spacing) : parseChars limits (f.chars sp) = .ok f := by
  have hadmits := Grammar.admits_of_parseChars h
  have hdepth := hadmits.depth_le
  have hsingle := Grammar.hasSingleTerms_of_isText hadmits.isText
  rw [parseChars_chars hsingle hlength, withinDepth, if_neg (by omega)]

/-- **Reading the written forms again.** They give the same formula if the canonical one is within
the limit on the length, as it is for all texts that have no more than 1366 characters, and
otherwise both are refused for their length. -/
theorem parse_canonical_of_parse {s : String} {f : Formula} (h : parse s = .ok f) :
    (f.canonical.length ≤ 4096 → parse f.canonical = .ok f ∧ parse f.pretty = .ok f) ∧
      (4096 < f.canonical.length →
        parse f.canonical = .error (.tooLong 4096) ∧ parse f.pretty = .error (.tooLong 4096) ∧
          (Error.parse (.tooLong 4096)).reportName? = some "FormulaTooComplexError") ∧
      ((Text.removeBlanks s.toList).length ≤ 1366 → f.canonical.length ≤ 4096) := by
  rw [length_canonical]
  refine ⟨?_, ?_, ?_⟩
  · intro hshort
    have hlimit : (f.canonicalLength : Int) ≤ Limits.standard.maxLength := by
      show (f.canonicalLength : Int) ≤ 4096
      omega
    have hread := parseChars_chars_of_parseChars h hlimit
    simp only [parse, canonical, pretty, String.toList_ofList]
    exact ⟨hread .tight, hread .wide⟩
  · intro hlong
    obtain ⟨hcanonical, hpretty⟩ := parse_written_of_tooLong hlong
    exact ⟨hcanonical, hpretty, rfl⟩
  · intro hshort
    have hbound := Grammar.canonicalLength_add_two_le (Grammar.admits_of_parseChars h).isText
    omega

/-- The text `~~p & q` is read, and so are the two written forms of its formula. -/
theorem parse_canonical_of_negations :
    let p : Letter := ⟨'p', rfl⟩
    let q : Letter := ⟨'q', rfl⟩
    let f : Formula := binary .and (not (not (atom p))) (atom q)
    parse "~~p & q" = .ok f ∧ parse "(~(~p))&q" = .ok f ∧ parse "(~(~p)) & q" = .ok f := by
  intro p q f
  have hread : parse "~~p & q" = .ok f := by
    refine Grammar.parseChars_of_admits ⟨by decide, ?_, by decide⟩
    exact (Grammar.TextTree.binary .and (.negation (.negation (.letter p)))
      (.unit (.letter q))).isText
  obtain ⟨hsame, -, -⟩ := parse_canonical_of_parse hread
  obtain ⟨hcanonical, hpretty⟩ := hsame (by decide)
  exact ⟨hread, hcanonical, hpretty⟩

end Formula

/-! ## A canonical form that is too long -/

namespace Grammar

/-- A text without parentheses that are not needed: `~~p`, and then again and again the conjunction
of what there is with itself. -/
def doubled : Nat → TextTree
  | 0 => .unit (.negation (.negation (.letter ⟨'p', rfl⟩)))
  | n + 1 => .binary .and (.enclosed (doubled n)) (doubled n)

/-- There are no blanks in the text. -/
theorem removeBlanks_doubled (n : Nat) :
    Text.removeBlanks (doubled n).chars = (doubled n).chars := by
  induction n with
  | zero => decide
  | succ n ih =>
    rw [doubled, TextTree.chars, UnitTree.chars, Text.removeBlanks_append,
      Text.removeBlanks_append, removeBlanks_enclosed ih, ih]
    rfl

/-- The text is about twice as long with each step. -/
theorem length_doubled (n : Nat) : (doubled n).chars.length + 3 = 6 * 2 ^ n := by
  induction n with
  | zero => rfl
  | succ n ih =>
    simp only [doubled, TextTree.chars, UnitTree.chars, Connective.symbol, List.length_append,
      List.length_cons, List.length_nil]
    omega

/-- Each step adds one operator to the nesting. -/
theorem depth_doubled (n : Nat) : (doubled n).formula.depth = n + 2 := by
  induction n with
  | zero => rfl
  | succ n ih =>
    simp only [doubled, TextTree.formula, UnitTree.formula, Formula.depth, ih]
    omega

/-- The canonical form is longer than the text, by two thirds in the end. -/
theorem canonicalLength_doubled (n : Nat) :
    (doubled n).formula.canonicalLength + 5 = 10 * 2 ^ n := by
  have hatomic : ∀ n, (doubled n).formula.isAtomic = false := by
    intro n
    cases n <;> rfl
  induction n with
  | zero => rfl
  | succ n ih =>
    simp only [doubled, TextTree.formula, UnitTree.formula, Formula.canonicalLength, hatomic,
      Bool.false_eq_true, if_false, Connective.symbol, List.length_cons, List.length_nil]
    omega

end Grammar

/-- Of a text of 3069 characters that is read, neither of the written forms is: the canonical one
has
5115. -/
theorem Formula.parse_canonical_doubled :
    let s : String := String.ofList (Grammar.doubled 9).chars
    let f : Formula := (Grammar.doubled 9).formula
    s.length = 3069 ∧ f.canonical.length = 5115 ∧ parse s = .ok f ∧
      parse f.canonical = .error (.tooLong 4096) ∧ parse f.pretty = .error (.tooLong 4096) := by
  intro s f
  have hchars : (Grammar.doubled 9).chars.length = 3069 := by
    have := Grammar.length_doubled 9
    omega
  have hcanonical : f.canonicalLength = 5115 := by
    have : f.canonicalLength + 5 = 10 * 2 ^ 9 := Grammar.canonicalLength_doubled 9
    omega
  have hread : parse s = .ok f := by
    have hdepth := Grammar.depth_doubled 9
    have hblanks := Grammar.removeBlanks_doubled 9
    have hadmits : Grammar.Admits .standard (Grammar.doubled 9).chars f := by
      refine ⟨?_, ?_, ?_⟩
      · rw [hblanks, hchars]
        decide
      · rw [hblanks]
        exact (Grammar.doubled 9).isText
      · show ((Grammar.doubled 9).formula.depth : Int) ≤ 100
        omega
    rw [parse, String.toList_ofList]
    exact Grammar.parseChars_of_admits hadmits
  have hrefused := parse_written_of_tooLong (f := f) (by omega)
  refine ⟨?_, ?_, hread, hrefused⟩
  · rw [String.length_ofList, hchars]
  · rw [length_canonical, hcanonical]

end NaturalDeduction
