import NaturalDeduction.Formula.Construct
import NaturalDeduction.Rule.Check
import NaturalDeduction.Value.Order

/-!
# Lines of proofs

A line states a formula, names the rule it applies and cites earlier lines (`Step`). In a proof it
has a number and rests on assumptions (`Line`). A line that is not in a proof is a `Draft`, which
may come with a number and assumptions of any kind.

Citations are kept as they were given, whatever they are; only whole numbers can cite a line. In a
line of a proof another value may be put in the place of the list of citations. If it has no items,
the line cannot be read until it is changed once more (`Line.isReadable`). A line that cites a
number with too many digits cannot be written out (`Line.write`).
-/

namespace NaturalDeduction

/-- What a line says. -/
structure Step where
  /-- The formula that is stated. -/
  proposition : Formula
  /-- The rule that is applied. -/
  rule : Rule
  /-- The lines that are cited. -/
  citations : List Value

namespace Step

/-- The citations that a value gives: none if it counts as nothing, and else its items. -/
def citationsOf (v : Value) : Except Error (List Value) :=
  if v.isFalsy then .ok []
  else
    match v.items? with
    | some items => .ok items
    | none => .error .wrongKind

/-- The text of a line with a given number. -/
def text (number : String) (s : Step) : String :=
  let cited := ", ".intercalate (s.citations.map Value.display)
  let full := number ++ ". " ++ s.proposition.pretty ++ "  " ++ s.rule.name ++ " " ++ cited
  String.ofList (Text.dropBlanksEnd full.toList)

/-- Whether all citations can be written out. -/
def isWritable (s : Step) : Bool :=
  s.citations.all Value.isWritable

end Step

/-- A line in a proof. -/
structure Line extends Step where
  /-- The number of the line, from one. -/
  number : Nat
  /-- The numbers of the assumptions it rests on, in increasing order. -/
  assumptions : List Nat
  /-- The number the line had when it was first added. A line may be added again, and then it stands
  at several places of the proof and is one and the same line at all of them. -/
  origin : Nat
  /-- What was put in the place of the list of citations, if anything was. Its items are the
  citations then. -/
  substitute : Option Value

namespace Line

/-- The text of a line. -/
def text (l : Line) : String :=
  l.toStep.text (toString l.number)

/-- A line as a source of later lines. -/
def toSource (l : Line) : Source :=
  ⟨l.proposition, l.rule⟩

/-- The line with a value in the place of its list of citations. -/
def withCitations (l : Line) (v : Value) : Line :=
  { l with citations := v.items?.getD [], substitute := some v }

/-- Whether there are citations to go through. -/
def isReadable (l : Line) : Bool :=
  match l.substitute with
  | some v => v.items?.isSome
  | none => true

/-- Whether the number of the line and all its citations can be written out. -/
def isWritable (l : Line) : Bool :=
  l.toStep.isWritable && (Value.int l.number).isWritable

/-- The text of a line, written out. -/
def write (l : Line) : Except Error String :=
  if !l.isReadable then .error .wrongKind
  else if l.isWritable then .ok l.text
  else .error .numberTooLong

/-- The citations as they are shown. -/
def shownCitations (l : Line) : Value :=
  l.substitute.getD (.list l.citations)

end Line

/-- A line that is not in a proof. -/
structure Draft extends Step where
  /-- The assumptions that were given for it. -/
  assumptions : Option Value
  /-- The number that was given for it, or no value. -/
  number : Value

namespace Draft

/-- The draft that a list of arguments describes: the formula, the rule, the citations, assumptions
and a number. All but the first two may be left out. -/
def ofArguments (args : List Value) : Except Error Draft :=
  match args with
  | proposition :: rule :: rest =>
    if 3 < rest.length then .error .wrongKind
    else do
      let f ← Formula.ofValue proposition
      let r ← Rule.ofValue rule
      let citations ← Step.citationsOf (rest.getD 0 .null)
      .ok ⟨⟨f, r, citations⟩, rest[1]?, rest.getD 2 .null⟩
  | _ => .error .wrongKind

/-- The text of a draft, written out. -/
def write (d : Draft) : Except Error String :=
  if d.toStep.isWritable && d.number.isWritable then .ok (d.toStep.text d.number.display)
  else .error .numberTooLong

/-- The draft with all its parts spelt out. -/
def spelledOut (d : Draft) : String :=
  "LineOfProof(proposition=" ++ String.ofList d.proposition.constructorForm ++
    ", rule=<RULE." ++ d.rule.tag ++ ": " ++ Text.quoted d.rule.name ++ ">, cited_lines=" ++
    (Value.list d.citations).literal ++ ", assumptions=" ++
    (match d.assumptions with
      | some v => v.literal
      | none => "frozenset()") ++
    ", line_number=" ++ d.number.literal ++ ")"

/-- The assumptions of a draft in order. They may be of kinds that cannot be put in order. -/
def sortedAssumptions (d : Draft) : Except Error (List Value) :=
  match d.assumptions with
  | none => .ok []
  | some v =>
    match v.items? with
    | none => .error .wrongKind
    | some items =>
      match Value.sorted? items with
      | some sorted => .ok sorted
      | none => .error .wrongKind

end Draft

end NaturalDeduction
