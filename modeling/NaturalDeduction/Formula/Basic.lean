/-!
# Formulas

Formulas of propositional and predicate logic over one alphabet. A propositional variable is a
lowercase letter; so are the terms of a predicate and the variables of the quantifiers. Predicate
symbols are the uppercase letters other than the two quantifiers and the sign of disjunction.

The trees are built from two kinds of atomic formulas, negation, the four binary connectives and the
two quantifiers. Their written forms are in `NaturalDeduction.Formula.Printer`, and equality of
formulas, which is equality of written forms, is in `NaturalDeduction.Formula.Equality`.
-/

namespace NaturalDeduction

/-! ## The alphabet -/

/-- A lowercase letter of the Latin alphabet. -/
structure Letter where
  /-- The letter as a character. -/
  char : Char
  /-- It lies between `a` and `z`. -/
  isLower : char.isLower = true
deriving DecidableEq

namespace Letter

/-- The letter that a character is, if it is one. -/
def ofChar? (c : Char) : Option Letter :=
  if h : c.isLower = true then some ⟨c, h⟩ else none

/-- The character of a letter is that letter. -/
@[simp] theorem ofChar?_char (a : Letter) : ofChar? a.char = some a := by
  simp [ofChar?, a.isLower]

/-- A character is a letter exactly if it is the character of that letter. -/
theorem ofChar?_eq_some {c : Char} {a : Letter} : ofChar? c = some a ↔ c = a.char := by
  constructor
  · intro h
    unfold ofChar? at h
    split at h
    · cases h; rfl
    · cases h
  · rintro rfl
    exact ofChar?_char a

end Letter

/-- The uppercase letters that name predicates. -/
def isPredicateChar (c : Char) : Bool :=
  c.isUpper && c != 'E' && c != 'A' && c != 'V'

/-- A predicate symbol: an uppercase letter that is neither a quantifier nor the sign of
disjunction. -/
structure PredicateSymbol where
  /-- The symbol as a character. -/
  char : Char
  /-- It is an uppercase letter and not reserved. -/
  isPredicate : isPredicateChar char = true
deriving DecidableEq

/-- The predicate symbol that a character is, if it is one. -/
def PredicateSymbol.ofChar? (c : Char) : Option PredicateSymbol :=
  if h : isPredicateChar c = true then some ⟨c, h⟩ else none

/-- The character of a predicate symbol is that symbol. -/
@[simp] theorem PredicateSymbol.ofChar?_char (P : PredicateSymbol) : ofChar? P.char = some P := by
  simp [ofChar?, P.isPredicate]

/-- A character is a symbol exactly if it is the character of that symbol. -/
theorem PredicateSymbol.ofChar?_eq_some {c : Char} {P : PredicateSymbol} :
    ofChar? c = some P ↔ c = P.char := by
  constructor
  · intro h
    unfold ofChar? at h
    split at h
    · cases h; rfl
    · cases h
  · rintro rfl
    exact ofChar?_char P

/-- A term of a predicate: one letter, or several that were given as one text with commas between
them. Terms read from a formula always have one letter. -/
structure Term where
  /-- The first letter. -/
  head : Letter
  /-- The letters after the first comma. -/
  tail : List Letter
deriving DecidableEq

namespace Term

/-- The letters of a term. -/
def letters (t : Term) : List Letter :=
  t.head :: t.tail

/-- The term of one letter. -/
def ofLetter (a : Letter) : Term :=
  ⟨a, []⟩

end Term

/-- The binary connectives. -/
inductive Connective where
  /-- Disjunction. -/
  | or
  /-- Conjunction. -/
  | and
  /-- The conditional. -/
  | implies
  /-- The biconditional. -/
  | equivalent
deriving DecidableEq

namespace Connective

/-- The sign of a connective. -/
def symbol : Connective → List Char
  | or => ['V']
  | and => ['&']
  | implies => ['-', '>']
  | equivalent => ['<', '-', '>']

/-- The dual of conjunction is disjunction and conversely; the conditionals have no dual. -/
def dual? : Connective → Option Connective
  | and => some or
  | or => some and
  | implies => none
  | equivalent => none

end Connective

/-- The quantifiers. -/
inductive Quantifier where
  /-- There is. -/
  | existential
  /-- For all. -/
  | universal
deriving DecidableEq

namespace Quantifier

/-- The sign of a quantifier. -/
def symbol : Quantifier → Char
  | existential => 'E'
  | universal => 'A'

/-- The other quantifier. -/
def dual : Quantifier → Quantifier
  | existential => universal
  | universal => existential

/-- The quantifier that a character signifies. -/
def ofChar? (c : Char) : Option Quantifier :=
  if c = 'E' then some existential else if c = 'A' then some universal else none

/-- The other quantifier of the other quantifier is the quantifier itself. -/
@[simp] theorem dual_dual (q : Quantifier) : q.dual.dual = q := by
  cases q <;> rfl

end Quantifier

/-! ## Trees -/

/-- What a formula is formed with at its main operator, where variables and predicates count as
operators of their own. -/
inductive Former where
  /-- A propositional variable. -/
  | atom
  /-- A predicate. -/
  | predicate
  /-- Negation. -/
  | not
  /-- A connective. -/
  | binary (op : Connective)
  /-- A quantifier. -/
  | quantified (q : Quantifier)
deriving DecidableEq

namespace Former

/-- The name of the constructor. -/
def name : Former → List Char
  | atom => ['A', 't', 'o', 'm']
  | predicate => ['P', 'r', 'e', 'd', 'i', 'c', 'a', 't', 'e']
  | not => ['N', 'o', 't']
  | binary .or => ['O', 'r']
  | binary .and => ['A', 'n', 'd']
  | binary .implies => ['I', 'm', 'p', 'l', 'i', 'e', 's']
  | binary .equivalent => ['E', 'q', 'u', 'i', 'v', 'a', 'l', 'e', 'n', 't']
  | quantified .existential => ['E', 'x']
  | quantified .universal => ['A', 'l', 'l']

/-- Whether it is conjunction or disjunction. -/
def isLattice : Former → Bool
  | binary .or => true
  | binary .and => true
  | _ => false

/-- Whether it is a quantifier. -/
def isQuantifier : Former → Bool
  | quantified _ => true
  | _ => false

end Former

/-- The formulas. -/
inductive Formula where
  /-- A propositional variable. -/
  | atom (name : Letter)
  /-- A predicate symbol applied to at least one term. -/
  | predicate (symbol : PredicateSymbol) (first : Term) (others : List Term)
  /-- A negation. -/
  | not (arg : Formula)
  /-- Two formulas joined by a connective. -/
  | binary (op : Connective) (lhs rhs : Formula)
  /-- A quantifier, the variable it binds and its scope. -/
  | quantified (q : Quantifier) (var : Letter) (scope : Formula)
deriving DecidableEq

namespace Formula

/-- What a formula is formed with. -/
def former : Formula → Former
  | atom _ => .atom
  | predicate _ _ _ => .predicate
  | not _ => .not
  | binary op _ _ => .binary op
  | quantified q _ _ => .quantified q

/-- Variables and predicates have no operator. -/
def isAtomic : Formula → Bool
  | atom _ => true
  | predicate _ _ _ => true
  | _ => false

/-- Whether the main operator is a quantifier. -/
def isQuantified : Formula → Bool
  | quantified _ _ _ => true
  | _ => false

/-- The formulas directly below the main operator. -/
def operands : Formula → List Formula
  | atom _ => []
  | predicate _ _ _ => []
  | not f => [f]
  | binary _ l r => [l, r]
  | quantified _ _ f => [f]

/-- The sign of the main operator, where a quantifier includes its variable. -/
def operator : Formula → Option (List Char)
  | atom _ => none
  | predicate _ _ _ => none
  | not _ => some ['~']
  | binary op _ _ => some op.symbol
  | quantified q v _ => some [q.symbol, v.char]

/-- How deep operators are nested. -/
def depth : Formula → Nat
  | atom _ => 0
  | predicate _ _ _ => 0
  | not f => f.depth + 1
  | binary _ l r => max l.depth r.depth + 1
  | quantified _ _ f => f.depth + 1

/-- The formula with its negation taken away, if it is a negation, and otherwise negated. -/
def negate : Formula → Formula
  | not f => f
  | f => not f

/-- `n` negations in front of a formula. -/
def negations : Nat → Formula → Formula
  | 0, f => f
  | n + 1, f => not (negations n f)

end Formula

end NaturalDeduction
