import NaturalDeduction.Formula.Split
import NaturalDeduction.Text.Blank
import NaturalDeduction.Value

/-!
# Reading formulas

A formula is read by removing the blanks, then splitting the text at its main operator again and
again (`NaturalDeduction.Formula.Split`). Since the first connective outside all parentheses is the
main one, connectives nest to the right. A parser has two limits, one on the length of the text
without blanks and one on the nesting of operators (`Limits`); `Formula.parse` is the parser with
the usual ones.

Of two faults the one that is found first is reported: the length, the balance of the parentheses,
and then, from the outside to the inside and from left to right, the nesting, the form of a text and
an operand that is missing.
-/

namespace NaturalDeduction

/-- Why a text is not a formula. -/
inductive ParseError where
  /-- What should be read is not a text. -/
  | notText (value : Value)
  /-- The text is longer than the limit. -/
  | tooLong (limit : Int)
  /-- Operators are nested deeper than the limit. -/
  | tooDeep (limit : Int)
  /-- Parentheses without partner in the text as it was given. -/
  | unbalanced (source : List Char)
  /-- A part that has none of the forms of a formula. -/
  | malformed (part : List Char)
  /-- An operator of a part lacks an operand. -/
  | missingOperand (operator part : List Char)

namespace ParseError

/-- The text of the fault. -/
def message : ParseError → String
  | notText v => "expected a string, got " ++ v.literal
  | tooLong n => "formula longer than " ++ toString n ++ " characters"
  | tooDeep n => "operators nested deeper than " ++ toString n
  | unbalanced s => "unbalanced parentheses in " ++ Text.quoted (String.ofList s)
  | malformed s => Text.quoted (String.ofList s) ++ " is not a well-formed formula"
  | missingOperand op s =>
    "missing operand of " ++ Text.quoted (String.ofList op) ++ " in " ++
      Text.quoted (String.ofList s)

/-- Whether a limit was exceeded. -/
def isLimit : ParseError → Bool
  | tooLong _ => true
  | tooDeep _ => true
  | _ => false

end ParseError

/-- How long a text and how deep its operators may be. -/
structure Limits where
  /-- The greatest number of characters that are not blank. -/
  maxLength : Int
  /-- The greatest nesting of operators. -/
  maxDepth : Int

/-- The limits of the usual parser. -/
def Limits.standard : Limits :=
  ⟨4096, 100⟩

namespace Formula

/-- Reads a part without blanks that stands below `depth` operators. -/
def parsePart (limits : Limits) (depth : Nat) (s : List Char) : Except ParseError Formula :=
  if limits.maxDepth < depth then .error (.tooDeep limits.maxDepth)
  else
    match _h : split (trimOuter s) with
    | none => .error (.malformed (trimOuter s))
    | some (.letter a) => .ok (.atom a)
    | some (.application P t) => .ok (.application P t)
    | some (.binary op l r) =>
      if l.isEmpty || r.isEmpty then .error (.missingOperand op.symbol (trimOuter s))
      else do
        let lhs ← parsePart limits (depth + 1) l
        let rhs ← parsePart limits (depth + 1) r
        .ok (.binary op lhs rhs)
    | some (.negation operand) =>
      if operand.isEmpty then .error (.missingOperand ['~'] (trimOuter s))
      else do
        let f ← parsePart limits (depth + 1) operand
        .ok (.not f)
    | some (.quantifier q v scope) => do
      let f ← parsePart limits (depth + 1) scope
      .ok (.quantified q v f)
termination_by s.length
decreasing_by
  all_goals
    have hle := length_trimOuter_le s
    have hlt := length_of_split _h
    simp only [Split.operands, List.mem_cons, List.not_mem_nil, or_false, forall_eq_or_imp,
      forall_eq] at hlt
    omega

/-- Reads a text. -/
def parseChars (limits : Limits) (s : List Char) : Except ParseError Formula :=
  let stripped := Text.removeBlanks s
  if limits.maxLength < stripped.length then .error (.tooLong limits.maxLength)
  else if balanced stripped then parsePart limits 0 stripped
  else .error (.unbalanced s)

/-- Reads a text within the usual limits. -/
def parse (s : String) : Except ParseError Formula :=
  parseChars .standard s.toList

/-- Reads a value, which must be a text. -/
def parseValue (limits : Limits) : Value → Except ParseError Formula
  | .text s => parseChars limits s.toList
  | v => .error (.notText v)

/-- Whether a text is a formula within the usual limits. -/
def isWellFormed (s : String) : Bool :=
  (parse s).isOk

end Formula

end NaturalDeduction
