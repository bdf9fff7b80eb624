import NaturalDeduction.English
import NaturalDeduction.Formula.Rename

/-!
# English sentences for formulas

A sentence says a propositional formula in English. The connectives are the usual words, operands
that are not letters stand in parentheses, and a conditional can be said in three ways
(`Sentence.Style`). Each sentence has its formula (`Sentence.formula`) and its words
(`Sentence.chars`).
-/

namespace NaturalDeduction.English

/-- The ways to say a conditional. -/
inductive Style where
  /-- Two words around the antecedent: `if p then q`. -/
  | ifThen
  /-- Two words between the sides: `p only if q`. -/
  | onlyIf
  /-- One word between the sides: `p implies q`. -/
  | implies
deriving DecidableEq

/-- A propositional formula with the ways in which its conditionals are said. -/
inductive Sentence where
  /-- A letter. -/
  | letter (a : Letter)
  /-- A negation. -/
  | not (s : Sentence)
  /-- A conjunction. -/
  | and (l r : Sentence)
  /-- A disjunction. -/
  | or (l r : Sentence)
  /-- A biconditional. -/
  | ifAndOnlyIf (l r : Sentence)
  /-- A conditional. -/
  | conditional (style : Style) (l r : Sentence)

namespace Sentence

/-- What a sentence says. -/
def formula : Sentence → Formula
  | letter a => .atom a
  | not s => .not s.formula
  | and l r => .binary .and l.formula r.formula
  | or l r => .binary .or l.formula r.formula
  | ifAndOnlyIf l r => .binary .equivalent l.formula r.formula
  | conditional _ l r => .binary .implies l.formula r.formula

/-- The ways in which the conditionals of a sentence are said. -/
def styles : Sentence → List Style
  | letter _ => []
  | not s => s.styles
  | and l r => l.styles ++ r.styles
  | or l r => l.styles ++ r.styles
  | ifAndOnlyIf l r => l.styles ++ r.styles
  | conditional style l r => style :: (l.styles ++ r.styles)

/-- Whether a sentence is a letter. -/
def isLetter : Sentence → Bool
  | letter _ => true
  | _ => false

/-- A text in parentheses, unless it is that of a letter. -/
def enclose (s : Sentence) (text : List Char) : List Char :=
  if s.isLetter then text else '(' :: (text ++ [')'])

/-- The words of a sentence. -/
def chars : Sentence → List Char
  | letter a => [a.char]
  | not s => "not ".toList ++ s.enclose s.chars
  | and l r => l.enclose l.chars ++ " and ".toList ++ r.enclose r.chars
  | or l r => l.enclose l.chars ++ " or ".toList ++ r.enclose r.chars
  | ifAndOnlyIf l r => l.enclose l.chars ++ " if and only if ".toList ++ r.enclose r.chars
  | conditional .ifThen l r =>
    "if ".toList ++ l.enclose l.chars ++ " then ".toList ++ r.enclose r.chars
  | conditional .onlyIf l r => l.enclose l.chars ++ " only if ".toList ++ r.enclose r.chars
  | conditional .implies l r => l.enclose l.chars ++ " implies ".toList ++ r.enclose r.chars

/-- A sentence says a formula of propositional logic. -/
theorem isPropositional_formula (s : Sentence) : s.formula.isPropositional = true := by
  induction s with
  | letter a => rfl
  | not s ih => simpa [formula, Formula.isPropositional] using ih
  | and l r ihl ihr => simp [formula, Formula.isPropositional, ihl, ihr]
  | or l r ihl ihr => simp [formula, Formula.isPropositional, ihl, ihr]
  | ifAndOnlyIf l r ihl ihr => simp [formula, Formula.isPropositional, ihl, ihr]
  | conditional style l r ihl ihr => simp [formula, Formula.isPropositional, ihl, ihr]

/-- Every propositional formula is said by a sentence, with any one way of saying conditionals. -/
theorem exists_formula_eq (style : Style) {f : Formula} (h : f.isPropositional = true) :
    ∃ s : Sentence, s.formula = f ∧ ∀ w ∈ s.styles, w = style := by
  induction f with
  | atom a => exact ⟨.letter a, rfl, by simp [styles]⟩
  | predicate P t ts => simp [Formula.isPropositional] at h
  | quantified q v f => simp [Formula.isPropositional] at h
  | not f ih =>
    obtain ⟨s, hs, hw⟩ := ih h
    exact ⟨.not s, by simp [formula, hs], hw⟩
  | binary op l r ihl ihr =>
    simp only [Formula.isPropositional, Bool.and_eq_true] at h
    obtain ⟨s, hs, hsw⟩ := ihl h.1
    obtain ⟨t, ht, htw⟩ := ihr h.2
    have hboth : ∀ w ∈ s.styles ++ t.styles, w = style := by
      intro w hw
      rcases List.mem_append.1 hw with hw | hw
      · exact hsw w hw
      · exact htw w hw
    cases op with
    | or => exact ⟨.or s t, by simp [formula, hs, ht], hboth⟩
    | and => exact ⟨.and s t, by simp [formula, hs, ht], hboth⟩
    | implies =>
      refine ⟨.conditional style s t, by simp [formula, hs, ht], ?_⟩
      intro w hw
      rcases List.mem_cons.1 hw with hw | hw
      · exact hw
      · exact hboth w hw
    | equivalent => exact ⟨.ifAndOnlyIf s t, by simp [formula, hs, ht], hboth⟩

end Sentence

end NaturalDeduction.English
