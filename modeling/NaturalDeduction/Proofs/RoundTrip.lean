import NaturalDeduction.Formula.Equality
import NaturalDeduction.Proofs.Parsing

/-!
# Reading undoes writing

Without its blanks, the written form of a formula is the canonical one whatever the spacing
(`Formula.removeBlanks_chars`), and the canonical form is in the grammar. So the parser reads both
written forms back (`Formula.parseValue_written`), and if the formula is nested deeper than allowed
it says that and nothing else.

Another consequence of the grammar being unambiguous is that formulas with the same canonical form
are the same up to the way in which letters are grouped into terms (`Formula.same_iff_cutTerms_eq`).
-/

namespace NaturalDeduction

/-! ## Characters that are not blank -/

/-- Visible characters are no blanks. -/
theorem Text.isBlank_of_visible {c : Char} (hl : 0x21 ≤ c.toNat) (hu : c.toNat ≤ 0x7E) :
    Text.isBlank c = false := by
  simp only [Text.isBlank, Bool.or_eq_false_iff, Bool.and_eq_false_iff, decide_eq_false_iff_not,
    beq_eq_false_iff_ne]
  omega

/-- Letters are no blanks. -/
theorem Letter.isBlank_char (a : Letter) : Text.isBlank a.char = false := by
  have h : (decide (a.char.val ≥ 'a'.val) && decide (a.char.val ≤ 'z'.val)) = true := a.isLower
  rw [Bool.and_eq_true, decide_eq_true_eq, decide_eq_true_eq] at h
  have hl := UInt32.le_iff_toNat_le.1 h.1
  have hu := UInt32.le_iff_toNat_le.1 h.2
  exact Text.isBlank_of_visible (Nat.le_trans (by decide) hl) (Nat.le_trans hu (by decide))

/-- Predicate symbols are no blanks. -/
theorem PredicateSymbol.isBlank_char (P : PredicateSymbol) : Text.isBlank P.char = false := by
  have hupper : P.char.isUpper = true := by
    have := P.isPredicate
    simp only [isPredicateChar, Bool.and_eq_true] at this
    exact this.1.1.1
  have h : P.char.val ≥ 'A'.val ∧ P.char.val ≤ 'Z'.val := of_decide_eq_true hupper
  have hl := UInt32.le_iff_toNat_le.1 h.1
  have hu := UInt32.le_iff_toNat_le.1 h.2
  exact Text.isBlank_of_visible (Nat.le_trans (by decide) hl) (Nat.le_trans hu (by decide))

/-- Blanks are removed from each part of a text. -/
theorem Text.removeBlanks_append (s t : List Char) :
    Text.removeBlanks (s ++ t) = Text.removeBlanks s ++ Text.removeBlanks t :=
  List.filter_append ..

/-- A character that is no blank stays. -/
theorem Text.removeBlanks_cons {c : Char} (h : Text.isBlank c = false) (s : List Char) :
    Text.removeBlanks (c :: s) = c :: Text.removeBlanks s := by
  simp [Text.removeBlanks, h]

/-- Without blanks a connective is its symbol. -/
theorem removeBlanks_symbol (sp : Spacing) (op : Connective) :
    Text.removeBlanks (op.chars sp) = op.symbol := by
  cases sp <;> cases op <;> decide

/-- There are no blanks among letters with commas. -/
theorem removeBlanks_writeLetters (a : Letter) (as : List Letter) :
    Text.removeBlanks (writeLetters a as) = writeLetters a as := by
  induction as generalizing a with
  | nil => exact Text.removeBlanks_cons a.isBlank_char []
  | cons b bs ih =>
    rw [writeLetters, Text.removeBlanks_cons a.isBlank_char, Text.removeBlanks_cons (by decide), ih]

/-- Parentheses stay where they are when blanks are removed. -/
theorem removeBlanks_enclosed {s t : List Char} (h : Text.removeBlanks s = t) :
    Text.removeBlanks ('(' :: (s ++ [')'])) = '(' :: (t ++ [')']) := by
  rw [Text.removeBlanks_cons (by decide), Text.removeBlanks_append, h]
  rfl

namespace Formula

/-- Without blanks an operand is written as in the canonical form, if its formula is. -/
theorem removeBlanks_operandChars {sp : Spacing} {f : Formula}
    (h : Text.removeBlanks (f.chars sp) = f.chars .tight) :
    Text.removeBlanks (f.operandChars sp) = f.operandChars .tight := by
  unfold operandChars
  split
  · exact h
  · exact removeBlanks_enclosed h

/-- Without blanks every written form is the canonical one. -/
theorem removeBlanks_chars (sp : Spacing) (f : Formula) :
    Text.removeBlanks (f.chars sp) = f.chars .tight := by
  induction f with
  | atom a => exact Text.removeBlanks_cons a.isBlank_char []
  | predicate P t ts =>
    rw [chars_predicate, chars_predicate, writeTerms, Text.removeBlanks_cons P.isBlank_char,
      removeBlanks_enclosed (removeBlanks_writeLetters _ _)]
  | not f ih =>
    rw [chars_not, chars_not, Text.removeBlanks_cons (by decide), removeBlanks_operandChars ih]
  | binary op l r ihl ihr =>
    rw [chars_binary, chars_binary, Text.removeBlanks_append, Text.removeBlanks_append,
      removeBlanks_operandChars ihl, removeBlanks_operandChars ihr, removeBlanks_symbol]
    rfl
  | quantified q v f ih =>
    have hq : Text.isBlank q.symbol = false := by cases q <;> decide
    rw [chars_quantified, chars_quantified, Text.removeBlanks_cons hq,
      Text.removeBlanks_cons v.isBlank_char, removeBlanks_enclosed ih]

/-! ## Terms of one letter -/

/-- Terms with one letter each are the terms made of their letters. -/
theorem map_ofLetter_termLetters {t : Term} {ts : List Term}
    (h : ((t :: ts).all fun t => t.tail.isEmpty) = true) :
    (termLetters t ts).map Term.ofLetter = ts := by
  have hsingle : ∀ u ∈ t :: ts, u.tail = [] := by
    intro u hu
    exact List.isEmpty_iff.1 (List.all_eq_true.1 h u hu)
  rw [termLetters, hsingle t List.mem_cons_self, List.nil_append]
  have hts : ∀ u ∈ ts, u.tail = [] := fun u hu => hsingle u (List.mem_cons_of_mem _ hu)
  clear hsingle h
  induction ts with
  | nil => rfl
  | cons u us ih =>
    have hu := hts u List.mem_cons_self
    rw [List.flatMap_cons, List.map_append, ih fun w hw => hts w (List.mem_cons_of_mem _ hw)]
    cases u
    cases hu
    rfl

/-- There is nothing to cut in terms of one letter. -/
theorem cutTerms_of_hasSingleTerms {f : Formula} (h : f.hasSingleTerms = true) :
    f.cutTerms = f := by
  induction f with
  | atom a => rfl
  | predicate P t ts =>
    have hhead : t.tail = [] := by
      have := List.all_eq_true.1 h t List.mem_cons_self
      exact List.isEmpty_iff.1 this
    rw [cutTerms, map_ofLetter_termLetters h]
    cases t
    cases hhead
    rfl
  | not f ih => rw [cutTerms, ih h]
  | binary op l r ihl ihr =>
    rw [hasSingleTerms, Bool.and_eq_true] at h
    rw [cutTerms, ihl h.1, ihr h.2]
  | quantified q v f ih => rw [cutTerms, ih h]

/-! ## Reading and writing -/

/-- A written form that is not too long is read, or is nested too deep. -/
theorem parseChars_chars {f : Formula} (hf : f.hasSingleTerms = true) {limits : Limits}
    (hlength : (f.canonicalLength : Int) ≤ limits.maxLength) (sp : Spacing) :
    parseChars limits (f.chars sp) = withinDepth limits 0 f := by
  have hchars := removeBlanks_chars sp f
  have htext := Grammar.isText_chars f
  rw [cutTerms_of_hasSingleTerms hf, ← hchars] at htext
  refine Grammar.parseChars_of_isText ?_ htext
  rw [hchars, length_chars_tight]
  exact hlength

/-- **Reading undoes writing.** Within the limits both written forms of a formula are read back as
that very formula; if only its nesting exceeds the limits, this is what is reported. -/
theorem parseValue_written (f : Formula) (hf : f.hasSingleTerms = true) (limits : Limits)
    (hlength : (f.canonical.length : Int) ≤ limits.maxLength) :
    ((f.depth : Int) ≤ limits.maxDepth →
      parseValue limits (.text f.canonical) = .ok f ∧
        parseValue limits (.text f.pretty) = .ok f) ∧
      (limits.maxDepth < f.depth →
        parseValue limits (.text f.canonical) = .error (.tooDeep limits.maxDepth) ∧
          parseValue limits (.text f.pretty) = .error (.tooDeep limits.maxDepth) ∧
          (Error.parse (.tooDeep limits.maxDepth)).reportName? = some "FormulaTooComplexError") := by
  rw [canonical, String.length_ofList, length_chars_tight] at hlength
  have htight := parseChars_chars hf hlength .tight
  have hwide := parseChars_chars hf hlength .wide
  simp only [parseValue, canonical, pretty, String.toList_ofList, htight, hwide, withinDepth,
    Nat.zero_add]
  constructor
  · intro hdepth
    rw [if_neg (by omega)]
    exact ⟨rfl, rfl⟩
  · intro hdepth
    rw [if_pos hdepth]
    exact ⟨rfl, rfl, rfl⟩

/-- A quantifier above a conditional with a predicate and a negation: read back within the usual
limits, and too deep for a parser that allows two operators. -/
theorem parseValue_written_universal :
    let f : Formula := quantified .universal ⟨'x', rfl⟩
      (binary .implies (predicate ⟨'F', rfl⟩ (.ofLetter ⟨'x', rfl⟩) [.ofLetter ⟨'a', rfl⟩])
        (not (atom ⟨'p', rfl⟩)))
    parseValue .standard (.text "Ax(F(x,a)->(~p))") = .ok f ∧
      parseValue .standard (.text "Ax(F(x,a) -> (~p))") = .ok f ∧
      parseValue ⟨20, 2⟩ (.text "Ax(F(x,a) -> (~p))") = .error (.tooDeep 2) := by
  intro f
  have hstandard := (parseValue_written f rfl .standard (by decide)).1 (by decide)
  have hstrict := (parseValue_written f rfl ⟨20, 2⟩ (by decide)).2 (by decide)
  exact ⟨hstandard.1, hstandard.2, hstrict.2.1⟩

/-! ## Equality -/

/-- Formulas are the same exactly if their trees are, once all terms are cut into letters. -/
theorem same_iff_cutTerms_eq {f g : Formula} : f.same g = true ↔ f.cutTerms = g.cutTerms := by
  rw [same_iff]
  constructor
  · intro h
    have hg := Grammar.isText_chars g
    rw [← h] at hg
    exact (Grammar.isText_chars f).unique hg
  · intro h
    rw [← chars_cutTerms, h, chars_cutTerms]

end Formula

end NaturalDeduction
