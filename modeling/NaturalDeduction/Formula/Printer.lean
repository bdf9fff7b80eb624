import NaturalDeduction.Formula.Basic

/-!
# Written forms of formulas

A formula has three written forms. The canonical one has no blanks and puts exactly the non-atomic
operands of negation and of the connectives into parentheses, and every scope of a quantifier
(`Formula.canonical`). The pretty one differs in a space on either side of a connective
(`Formula.pretty`). The third names the constructors (`Formula.constructorForm`).

Text is written in front of the text that follows it (`Formula.write`), so that the length of the
result and not the nesting of the formula decides the work. What is written does not depend on what
follows: `Formula.write_eq` gives `f.write sp rest = f.chars sp ++ rest`, and `chars_not`,
`chars_binary` and `chars_quantified` are the rules of the form.
-/

namespace NaturalDeduction

/-! ## The forms with signs -/

/-- Whether connectives stand between spaces. -/
inductive Spacing where
  /-- No spaces. -/
  | tight
  /-- A single space on either side. -/
  | wide
deriving DecidableEq

/-- The sign of a connective, set as `sp` says. -/
def Connective.chars (sp : Spacing) (op : Connective) : List Char :=
  match sp with
  | .tight => op.symbol
  | .wide => ' ' :: (op.symbol ++ [' '])

/-- Letters with commas between them. -/
def writeLetters : Letter → List Letter → List Char
  | a, [] => [a.char]
  | a, b :: bs => a.char :: ',' :: writeLetters b bs

/-- The letters of a term with commas between them. -/
def Term.chars (t : Term) : List Char :=
  writeLetters t.head t.tail

/-- The letters of all terms, in order. -/
def termLetters (first : Term) (others : List Term) : List Letter :=
  first.tail ++ others.flatMap Term.letters

/-- Terms with commas between them. -/
def writeTerms (first : Term) (others : List Term) : List Char :=
  writeLetters first.head (termLetters first others)

namespace Formula

/-- The formula written in front of `rest`. -/
def write (sp : Spacing) : Formula → List Char → List Char
  | atom a, rest => a.char :: rest
  | predicate P t ts, rest => P.char :: '(' :: (writeTerms t ts ++ ')' :: rest)
  | not f, rest =>
    '~' :: (if f.isAtomic then f.write sp rest else '(' :: f.write sp (')' :: rest))
  | binary op l r, rest =>
    let right := if r.isAtomic then r.write sp rest else '(' :: r.write sp (')' :: rest)
    let joined := op.chars sp ++ right
    if l.isAtomic then l.write sp joined else '(' :: l.write sp (')' :: joined)
  | quantified q v f, rest => q.symbol :: v.char :: '(' :: f.write sp (')' :: rest)

/-- The formula as text. -/
def chars (sp : Spacing) (f : Formula) : List Char :=
  f.write sp []

/-- The formula as an operand: in parentheses unless it is atomic. -/
def operandChars (sp : Spacing) (f : Formula) : List Char :=
  if f.isAtomic then f.chars sp else '(' :: (f.chars sp ++ [')'])

/-- What is written does not depend on what follows. -/
theorem write_eq (sp : Spacing) (f : Formula) (rest : List Char) :
    f.write sp rest = f.chars sp ++ rest := by
  induction f generalizing rest with
  | atom a => rfl
  | predicate P t ts => simp [chars, write]
  | not f ih =>
    simp only [chars, write]
    split
    · rw [ih rest, ih []]; simp
    · rw [ih (')' :: rest), ih [')']]; simp
  | binary op l r ihl ihr =>
    simp only [chars, write]
    split <;> split <;> (simp only [ihl, ihr]; simp)
  | quantified q v f ih =>
    simp only [chars, write]
    rw [ih (')' :: rest), ih [')']]; simp

/-- A variable is written as its letter. -/
@[simp] theorem chars_atom (sp : Spacing) (a : Letter) : (atom a).chars sp = [a.char] := rfl

/-- A predicate is written with its terms in parentheses. -/
@[simp] theorem chars_predicate (sp : Spacing) (P : PredicateSymbol) (t : Term) (ts : List Term) :
    (predicate P t ts).chars sp = P.char :: '(' :: (writeTerms t ts ++ [')']) := by
  simp [chars, write]

/-- A negation is the sign followed by its operand. -/
@[simp] theorem chars_not (sp : Spacing) (f : Formula) :
    (not f).chars sp = '~' :: f.operandChars sp := by
  simp only [chars, write, operandChars]
  split
  · rfl
  · rw [write_eq]; rfl

/-- A connective stands between its operands. -/
@[simp] theorem chars_binary (sp : Spacing) (op : Connective) (l r : Formula) :
    (binary op l r).chars sp = l.operandChars sp ++ op.chars sp ++ r.operandChars sp := by
  simp only [chars, write, operandChars]
  split <;> split <;> (simp only [write_eq sp l, write_eq sp r]; simp)

/-- A quantifier is followed by its scope in parentheses. -/
@[simp] theorem chars_quantified (sp : Spacing) (q : Quantifier) (v : Letter) (f : Formula) :
    (quantified q v f).chars sp = q.symbol :: v.char :: '(' :: (f.chars sp ++ [')']) := by
  simp only [chars, write]
  rw [write_eq]
  rfl

/-- The text without blanks, as a string. -/
def canonical (f : Formula) : String :=
  String.ofList (f.chars .tight)

/-- The text with spaces around the connectives, as a string. -/
def pretty (f : Formula) : String :=
  String.ofList (f.chars .wide)

/-! ## The length of the canonical form -/

/-- The number of characters of letters with commas between them. -/
def lettersLength (n : Nat) : Nat :=
  2 * n + 1

/-- The number of characters of the canonical form, without writing it. -/
def canonicalLength : Formula → Nat
  | atom _ => 1
  | predicate _ t ts => lettersLength (termLetters t ts).length + 3
  | not f => 1 + (if f.isAtomic then f.canonicalLength else f.canonicalLength + 2)
  | binary op l r =>
    (if l.isAtomic then l.canonicalLength else l.canonicalLength + 2) + op.symbol.length +
      (if r.isAtomic then r.canonicalLength else r.canonicalLength + 2)
  | quantified _ _ f => f.canonicalLength + 4

/-- Letters that are written with commas have a comma less than letters. -/
theorem length_writeLetters (a : Letter) (as : List Letter) :
    (writeLetters a as).length = lettersLength as.length := by
  induction as generalizing a with
  | nil => rfl
  | cons b bs ih => simp [writeLetters, ih, lettersLength]; omega

/-- The length that is counted without writing the canonical form is the length of that form. -/
theorem length_chars_tight (f : Formula) : (f.chars .tight).length = f.canonicalLength := by
  induction f with
  | atom a => rfl
  | predicate P t ts => simp [canonicalLength, writeTerms, length_writeLetters]
  | not f ih =>
    simp only [chars_not, List.length_cons, operandChars, canonicalLength]
    split <;> simp [ih] <;> omega
  | binary op l r ihl ihr =>
    simp only [chars_binary, List.length_append, operandChars, canonicalLength, Connective.chars]
    split <;> split <;> simp [ihl, ihr]
  | quantified q v f ih => simp [canonicalLength, ih]

/-- `canonicalLength` is the length of the canonical form. -/
theorem length_canonical (f : Formula) : f.canonical.length = f.canonicalLength := by
  rw [canonical, String.length_ofList, length_chars_tight]

/-! ## The form with constructors -/

/-- The name of the constructor of the main operator. -/
def constructorName (f : Formula) : List Char :=
  f.former.name

/-- Text between apostrophes. -/
def marked (s : List Char) : List Char :=
  '\x27' :: (s ++ ['\x27'])

/-- The terms of a predicate, each between apostrophes, in parentheses. A single term is followed
by a comma. -/
def termsForm (first : Term) : List Term → List Char
  | [] => '(' :: (marked first.chars ++ [',', ')'])
  | others =>
    '(' :: (marked first.chars ++ others.flatMap (fun t => ',' :: ' ' :: marked t.chars) ++ [')'])

/-- The formula with constructors and their arguments. -/
def constructorForm : Formula → List Char
  | f@(atom a) => f.constructorName ++ '(' :: (marked [a.char] ++ [')'])
  | f@(predicate P t ts) =>
    f.constructorName ++ '(' :: (marked [P.char] ++ ',' :: ' ' :: (termsForm t ts ++ [')']))
  | f@(not g) => f.constructorName ++ '(' :: (g.constructorForm ++ [')'])
  | f@(binary _ l r) =>
    f.constructorName ++ '(' :: (l.constructorForm ++ ',' :: ' ' :: (r.constructorForm ++ [')']))
  | f@(quantified _ v g) =>
    f.constructorName ++ '(' :: (marked [v.char] ++ ',' :: ' ' :: (g.constructorForm ++ [')']))

end Formula

end NaturalDeduction
