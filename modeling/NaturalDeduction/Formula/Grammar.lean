import NaturalDeduction.Formula.Rename
import NaturalDeduction.Formula.Split

/-!
# The grammar of formulas

Which texts are formulas, said without any parser. A text is a unit, or a unit, the sign of a
connective and a text; so connectives nest to the right. A unit is a variable, a predicate symbol
with letters in parentheses, a text in parentheses, a negated unit, or a quantifier with its
variable and a text in parentheses. Parentheses leave no trace in the tree.

The canonical form of every formula is in the grammar, and its tree is the formula with all terms
cut into single letters (`Grammar.isText_chars`).
-/

namespace NaturalDeduction.Grammar

mutual

/-- The texts that can be an operand as they are, with their trees. -/
inductive IsUnit : List Char → Formula → Prop
  /-- A variable. -/
  | letter (a : Letter) : IsUnit [a.char] (.atom a)
  /-- A predicate symbol with letters. -/
  | application (P : PredicateSymbol) (t : Term) :
      IsUnit (P.char :: '(' :: (t.chars ++ [')'])) (.application P t)
  /-- A text in parentheses. -/
  | enclosed {s : List Char} {f : Formula} (h : IsText s f) : IsUnit ('(' :: (s ++ [')'])) f
  /-- A negated unit. -/
  | negation {s : List Char} {f : Formula} (h : IsUnit s f) : IsUnit ('~' :: s) (.not f)
  /-- A quantifier, its variable and its scope. -/
  | quantifier (q : Quantifier) (v : Letter) {s : List Char} {f : Formula} (h : IsText s f) :
      IsUnit (q.symbol :: v.char :: '(' :: (s ++ [')'])) (.quantified q v f)

/-- The texts of formulas, with their trees. -/
inductive IsText : List Char → Formula → Prop
  /-- A unit. -/
  | unit {s : List Char} {f : Formula} (h : IsUnit s f) : IsText s f
  /-- A unit, a connective and a text. -/
  | binary (op : Connective) {s t : List Char} {f g : Formula} (hs : IsUnit s f)
      (ht : IsText t g) : IsText (s ++ op.symbol ++ t) (.binary op f g)

end

/-- A canonical form is a text, and a unit if the formula is atomic. -/
theorem isText_and_isUnit_chars (f : Formula) :
    IsText (f.chars .tight) f.cutTerms ∧
      (f.isAtomic = true → IsUnit (f.chars .tight) f.cutTerms) := by
  have operand : ∀ g : Formula, (IsText (g.chars .tight) g.cutTerms ∧
      (g.isAtomic = true → IsUnit (g.chars .tight) g.cutTerms)) →
      IsUnit (g.operandChars .tight) g.cutTerms := by
    intro g hg
    unfold Formula.operandChars
    split
    · next ha => exact hg.2 ha
    · exact .enclosed hg.1
  induction f with
  | atom a => exact ⟨.unit (.letter a), fun _ => .letter a⟩
  | predicate P t ts =>
    rw [Formula.chars_predicate]
    have h : IsUnit (P.char :: '(' :: (writeTerms t ts ++ [')']))
        (Formula.predicate P t ts).cutTerms := .application P ⟨t.head, termLetters t ts⟩
    exact ⟨.unit h, fun _ => h⟩
  | not f ih =>
    rw [Formula.chars_not]
    exact ⟨.unit (.negation (operand f ih)), by simp [Formula.isAtomic]⟩
  | binary op l r ihl ihr =>
    rw [Formula.chars_binary]
    exact ⟨.binary op (operand l ihl) (.unit (operand r ihr)), by simp [Formula.isAtomic]⟩
  | quantified q v f ih =>
    rw [Formula.chars_quantified]
    exact ⟨.unit (.quantifier q v ih.1), by simp [Formula.isAtomic]⟩

/-- The canonical form of a formula is in the grammar. -/
theorem isText_chars (f : Formula) : IsText (f.chars .tight) f.cutTerms :=
  (isText_and_isUnit_chars f).1

end NaturalDeduction.Grammar
