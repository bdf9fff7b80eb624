import NaturalDeduction.Formula.Parser
import NaturalDeduction.Rule.Basic
import NaturalDeduction.Yaml.Fault

/-!
# Faults

What can go wrong, as causes. `Error.message?` is the wording of each, where there is one to show.
Faults of a user's input (a text that is no formula, an unknown rule, a bad conclusion) have a name
under which they are reported (`Error.reportName?`); the others have none.
-/

namespace NaturalDeduction

/-- The text for a sequence that has too few or too many items. -/
def countMessage (expected got : Nat) : String :=
  if got < expected then
    "not enough values to unpack (expected " ++ toString expected ++ ", got " ++ toString got ++ ")"
  else "too many values to unpack (expected " ++ toString expected ++ ")"

/-- The text for a whole number that has too many digits to be written. -/
def digitLimitMessage : String :=
  "Exceeds the limit (" ++ toString Value.digitLimit ++
    " digits) for integer string conversion; use sys.set_int_max_str_digits() to increase the limit"

/-- Why the check of a rule fails: something that it does with formulas and cited lines is not
defined for them. -/
inductive RuleFault where
  /-- A line that the rule looks at is not there. -/
  | missing
  /-- The rule takes exactly so many lines. -/
  | count (expected got : Nat)
  /-- A formula, or what forms it, does not have the part or the dual that is asked for. -/
  | noAttribute (owner part : String)
  /-- A text has no character at the place that is looked at. -/
  | noCharacter
  /-- No formula is formed in this way from these parts. -/
  | wrongParts
  /-- Something that was taken for granted does not hold. -/
  | broken
  /-- The check goes too far into the formulas. -/
  | exhausted

namespace RuleFault

/-- The text of the fault. Parts that are wrong have none of their own. Where a check goes too far,
what is told may go on with what was being done at that moment; this is left out. -/
def message? : RuleFault → Option String
  | missing => some "list index out of range"
  | count expected got => some (countMessage expected got)
  | noAttribute owner part => some (owner ++ " has no attribute " ++ Text.quoted part)
  | noCharacter => some "string index out of range"
  | wrongParts => none
  | broken => some ""
  | exhausted => some "maximum recursion depth exceeded"

/-- Whether the fault is turned into a fault of the line that is checked. -/
def isCaught : RuleFault → Bool
  | broken => false
  | _ => true

end RuleFault

/-- Why a line of a proof could not be checked. The number of the line is a value, because a line
that is not in a proof may come with a number of any kind. -/
inductive CheckFault where
  /-- A citation that is not an earlier line. -/
  | badCitation (line cited : Value)
  /-- The rule gave no answer, with the reason. -/
  | uncheckable (rule : Rule) (line : Value) (cause : RuleFault)
  /-- The rule gave no answer, for a reason that is handed on as it is. -/
  | uncaught (cause : RuleFault)
  /-- The fault cannot be told, because a number in its text has too many digits. -/
  | untold
  /-- An earlier line of that number is not in the proof. -/
  | missingLine
  /-- The number of the line cannot be compared with the number cited. -/
  | notComparable
  /-- There are no citations to go through. -/
  | unreadable

namespace CheckFault

/-- The text of the fault. -/
def message? : CheckFault → Option String
  | badCitation line cited =>
    some ("line " ++ line.display ++ " cites " ++ cited.literal ++
      ", which is not an earlier line")
  | uncheckable rule line cause =>
    some ("cannot check " ++ rule.name ++ " on line " ++ line.display ++ ": " ++
      cause.message?.getD "")
  | uncaught cause => cause.message?
  | untold => some digitLimitMessage
  | missingLine => some "list index out of range"
  | notComparable => none
  | unreadable => none

/-- The values that the text of the fault shows. -/
def shown : CheckFault → List Value
  | badCitation line cited => [line, cited]
  | uncheckable _ line _ => [line]
  | _ => []

/-- The fault that is told: the fault itself, unless its text cannot be written. -/
def told (f : CheckFault) : CheckFault :=
  if f.shown.all Value.isWritable then f else untold

/-- A fault whose values can all be written is told as it is. -/
theorem told_eq_self {f : CheckFault} (h : ∀ v ∈ f.shown, v.isWritable = true) : f.told = f :=
  if_pos (List.all_eq_true.2 h)

/-- A bad citation is named if it can be written. -/
theorem told_badCitation {line cited : Value} (hline : line.isWritable = true)
    (hcited : cited.isWritable = true) :
    (badCitation line cited).told = badCitation line cited := by
  refine told_eq_self fun v hv => ?_
  rcases List.mem_cons.1 hv with rfl | hv
  · exact hline
  · cases List.mem_singleton.1 hv
    exact hcited

/-- Nothing is told that shows what cannot be written. -/
theorem told_eq_untold {f : CheckFault} {v : Value} (hv : v ∈ f.shown) (h : v.isWritable = false) :
    f.told = untold := by
  refine if_neg fun hall => ?_
  have htrue := List.all_eq_true.1 hall v hv
  rw [h] at htrue
  cases htrue

/-- A fault is told as it is, or not at all. -/
theorem told_eq_or (f : CheckFault) : f.told = f ∨ f.told = untold := by
  unfold told
  split
  · exact .inl rfl
  · exact .inr rfl

/-- Whether the fault is one of applying a rule. An evaluation goes on after such a fault, and after
no other. -/
def isOfApplication : CheckFault → Bool
  | badCitation _ _ => true
  | uncheckable _ _ _ => true
  | _ => false

end CheckFault

/-- The causes of failure. -/
inductive Error where
  /-- A text is not a formula. -/
  | parse (e : ParseError)
  /-- A text is longer than a limit that was given for it. -/
  | tooLong (limit : Value)
  /-- The operators of a text are nested deeper than a limit that was given for it. -/
  | tooDeep (limit : Value)
  /-- What should be a formula or its text is neither. -/
  | notFormula (v : Value)
  /-- The name of a propositional variable is not a letter. -/
  | notAtomName (v : Value)
  /-- The variable of a quantifier is not a letter. -/
  | notVariable (v : Value)
  /-- A symbol and terms that do not make a predicate. -/
  | notPredicate (symbol : Value) (terms : List Value)
  /-- A text that is not a predicate with its terms. -/
  | notPredicateText (s : String)
  /-- An operand that is not a formula. -/
  | notOperand (constructor : String) (v : Value)
  /-- A scope that is not a formula. -/
  | notScope (constructor : String) (v : Value)
  /-- A formula should be nested less than not at all. -/
  | negativeDepth (depth : Value)
  /-- A whole number should be shifted by less than nothing. -/
  | negativeShift
  /-- There are no variables for a random formula. -/
  | noVariables
  /-- No rule has this name. -/
  | unknownRule (v : Value)
  /-- The conclusion of a proof is not a formula. -/
  | conclusion (given : Value) (cause : Error)
  /-- A proof has no conclusion. -/
  | noConclusion
  /-- A sequence should have exactly so many items. -/
  | count (expected got : Nat)
  /-- A line could not be checked. -/
  | check (e : CheckFault)
  /-- The check of a rule failed. -/
  | rule (e : RuleFault)
  /-- No level of reporting has this name. -/
  | unknownLevel (s : String)
  /-- A record lacks a field. -/
  | missingField (name : String)
  /-- A value is of a kind that does not admit the operation. -/
  | wrongKind
  /-- A thing does not have the operation that is asked of it. -/
  | noOperation
  /-- The document is not there. -/
  | missingDocument
  /-- There is a fault in the document. -/
  | document (e : Yaml.Fault)
  /-- A whole number has too many digits to be written. -/
  | numberTooLong
  /-- Something is nested too deep to be worked through. -/
  | exhausted
  /-- A value that contains itself cannot be written out in full. -/
  | circular

namespace Error

/-- The text of a fault. Faults about the kind of a value have none of their own. -/
def message? : Error → Option String
  | parse e => some e.message
  | tooLong limit => some ("formula longer than " ++ limit.display ++ " characters")
  | tooDeep limit => some ("operators nested deeper than " ++ limit.display)
  | notFormula v => some (v.literal ++ " is neither a formula nor a string")
  | notAtomName v => some (v.literal ++ " is not a propositional variable")
  | notVariable v => some (v.literal ++ " is not a variable")
  | notPredicate symbol terms =>
    some (symbol.literal ++ " with terms " ++ (Value.tuple terms).literal ++
      " is not a predicate application")
  | notPredicateText s => some (Text.quoted s ++ " is not a predicate application")
  | notOperand c v => some (c ++ " expects formulas as arguments, got " ++ v.literal)
  | notScope c v => some (c ++ " expects a formula as scope, got " ++ v.literal)
  | negativeDepth depth => some ("depth must be non-negative, got " ++ depth.display)
  | negativeShift => some "negative shift count"
  | noVariables => some "no variables to choose from"
  | unknownRule v => some ("unknown rule " ++ v.literal)
  | conclusion given cause =>
    some ("invalid conclusion " ++ given.literal ++ ": " ++ (message? cause).getD "")
  | noConclusion => some "no conclusion has been set"
  | count expected got => some (countMessage expected got)
  | check e => e.message?
  | rule e => e.message?
  | unknownLevel s => some ("Unknown level: " ++ Text.quoted s)
  | missingField name => some (Text.quoted name)
  | wrongKind => none
  | noOperation => none
  | missingDocument => none
  | document e => e.message?
  | numberTooLong => some digitLimitMessage
  | exhausted => some "maximum recursion depth exceeded"
  | circular => some "Circular reference detected"

/-- The values that the text of a fault shows. -/
def shown : Error → List Value
  | parse (.notText v) => [v]
  | tooLong limit => [limit]
  | tooDeep limit => [limit]
  | notFormula v => [v]
  | notAtomName v => [v]
  | notVariable v => [v]
  | notPredicate symbol terms => symbol :: terms
  | notOperand _ v => [v]
  | notScope _ v => [v]
  | negativeDepth depth => [depth]
  | unknownRule v => [v]
  | conclusion given _ => [given]
  | _ => []

/-- The fault that is told: the fault itself, unless its text cannot be written. -/
def told (e : Error) : Error :=
  if e.shown.all Value.isWritable then e else .numberTooLong

/-- The name under which a fault of a user's input is reported. -/
def reportName? : Error → Option String
  | parse e => some (if e.isLimit then "FormulaTooComplexError" else "ParserError")
  | tooLong _ => some "FormulaTooComplexError"
  | tooDeep _ => some "FormulaTooComplexError"
  | conclusion _ _ => some "ConclusionConstructionError"
  | unknownRule _ => some "UnknownRuleError"
  | _ => none

end Error

end NaturalDeduction
