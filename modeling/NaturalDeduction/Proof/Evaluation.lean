import NaturalDeduction.Level
import NaturalDeduction.Proof.Basic

/-!
# Checking proofs

A line is valid if it cites as many lines as its rule wants, all of them earlier lines, and follows
from them by the rule (`Proof.check`). Rules go into formulas by calls that call themselves, and how
many of these can be open at once, the `room`, depends on where the check is called from: a single
line is checked with more room than the same line in the course of a whole proof.

Checking a proof goes through all its lines, whatever rules and citations say of some of them. The
proof is valid if all lines are, the last one is the conclusion and rests on no assumption
(`Proof.evaluate`). While a proof is checked a log is kept. Which of its records are passed on
depends on the level that is asked for (`Evaluation.passed`), but each of them is written, so that
there is no outcome if one cannot be (`Proof.evaluateWith`).
-/

namespace NaturalDeduction

/-! ## A single line -/

namespace Proof

/-- Whether a number of a line is greater than a whole number, if it is a number. -/
def exceeds? (number : Value) (c : Int) : Option Bool :=
  number.extent?.map fun e => (Extent.ofInt c).lt e

/-- The line that a citation on line `number` means. -/
def citedLine (lines : List Line) (number cited : Value) : Except CheckFault Line :=
  let bad : CheckFault := .badCitation number cited
  match cited.toInt? with
  | none => .error bad.told
  | some c =>
    if c < 1 then .error bad.told
    else
      match exceeds? number c with
      | none => .error .notComparable
      | some false => .error bad.told
      | some true =>
        match lines[c.toNat - 1]? with
        | some l => .ok l
        | none => .error .missingLine

/-- What becomes of a fault of a rule: it is turned into a fault of the line, or handed on. -/
def lineFault (rule : Rule) (number : Value) (cause : RuleFault) : CheckFault :=
  if cause.isCaught then (CheckFault.uncheckable rule number cause).told else .uncaught cause

/-- Whether a step is a valid line `number` after the lines of a proof, with room for so many calls.
-/
def check (room : Nat) (lines : List Line) (number : Value) (s : Step) : Except CheckFault Bool :=
  if s.citations.length ≠ s.rule.citedCount then .ok false
  else do
    let cited ← s.citations.mapM (citedLine lines number)
    (s.rule.check room s.proposition (cited.map Line.toSource)).mapError (lineFault s.rule number)

/-- Whether a line of a proof is valid. -/
def checkLine (room : Nat) (p : Proof) (l : Line) : Except CheckFault Bool :=
  if l.isReadable then check room p.lines (.int l.number) l.toStep else .error .unreadable

/-- Whether a draft would be a valid line. Without a number of its own it is checked as the next
line. -/
def checkDraft (room : Nat) (p : Proof) (d : Draft) : Except CheckFault Bool :=
  let number :=
    match d.number with
    | .null => .int (p.lines.length + 1)
    | v => v
  check room p.lines number d.toStep

end Proof

/-! ## Reports -/

/-- The weight of a record. -/
inductive Severity where
  /-- The outcome of a line. -/
  | debug
  /-- The course of the check. -/
  | info
  /-- Something is missing. -/
  | warning
deriving DecidableEq

namespace Severity

/-- The number of a severity. -/
def level : Severity → Int
  | debug => 10
  | info => 20
  | warning => 30

/-- The name of a severity. -/
def name : Severity → String
  | debug => "DEBUG"
  | info => "INFO"
  | warning => "WARNING"

end Severity

/-- A record of the log. -/
structure Record where
  /-- Its weight. -/
  severity : Severity
  /-- What it says. -/
  message : String

/-- The outcome of a check. -/
structure Evaluation where
  /-- Whether the proof is valid. -/
  isValid : Bool
  /-- The outcome for each line. -/
  verdicts : List Bool
  /-- The numbers of the lines that are not valid. -/
  invalid : List Nat
  /-- The lines that could not be checked, with the reason. -/
  faults : List (Nat × CheckFault)
  /-- Whether the last line is the conclusion. -/
  endsWithConclusion : Bool
  /-- The assumptions that the last line rests on. -/
  openAssumptions : List Nat
  /-- All records of the log. -/
  log : List Record

namespace Evaluation

/-- The score of a proof. -/
def score (e : Evaluation) : Nat :=
  if e.isValid then 1 else 0

/-- The faults by the numbers of their lines, in order. A line that stands at several places has one
number; of its faults the last one counts. -/
def faultsByNumber (e : Evaluation) : List (Nat × CheckFault) :=
  let numbers := (e.faults.map Prod.fst).foldr insertNumber []
  numbers.filterMap fun n => (e.faults.reverse.lookup n).map fun f => (n, f)

/-- The records that pass at a level. -/
def passed (e : Evaluation) (level : Int) : List Record :=
  let threshold := if level = 0 then Level.standard else level
  e.log.filter fun r => decide (threshold ≤ r.severity.level)

end Evaluation

namespace Proof

/-- Whether an outcome is a valid line. -/
def isValidOutcome : Except CheckFault Bool → Bool
  | .ok valid => valid
  | .error _ => false

/-- The fault of an outcome. -/
def faultOf? : Except CheckFault Bool → Option CheckFault
  | .ok _ => none
  | .error e => some e

/-- The records about a line. -/
def lineRecords (l : Line) (outcome : Except CheckFault Bool) : List Record :=
  (match faultOf? outcome with
    | some e => [⟨.info, "line " ++ toString l.number ++ ": " ++ e.message?.getD ""⟩]
    | none => []) ++
    [⟨.debug, l.text ++ " is " ++ if isValidOutcome outcome then "valid" else "invalid"⟩]

/-- Whether the last line is the conclusion. -/
def endsWithConclusion (p : Proof) : Bool :=
  match p.lines.getLast?, p.conclusion with
  | some l, some f => l.proposition.same f
  | _, _ => false

/-- The assumptions that the last line rests on. -/
def openAssumptions (p : Proof) : List Nat :=
  match p.lines.getLast? with
  | some l => l.assumptions
  | none => []

/-- The evaluation of a proof with these outcomes for its lines. The level that was asked for is
named in the log. -/
def report (p : Proof) (level : Value) (outcomes : List (Line × Except CheckFault Bool)) :
    Evaluation :=
  let invalid := (outcomes.filter fun o => !isValidOutcome o.2).map fun o => o.1.number
  let isValid := invalid.isEmpty && p.endsWithConclusion && p.openAssumptions.isEmpty
  { isValid
    verdicts := outcomes.map fun o => isValidOutcome o.2
    invalid
    faults := outcomes.filterMap fun o => (faultOf? o.2).map fun e => (o.1.number, e)
    endsWithConclusion := p.endsWithConclusion
    openAssumptions := p.openAssumptions
    log :=
      ⟨.info, "Options(log_level=" ++ level.literal ++ ")"⟩ ::
        (outcomes.flatMap fun o => lineRecords o.1 o.2) ++
        (if p.conclusion.isNone then [⟨.warning, "no conclusion has been set"⟩] else []) ++
        [⟨.info, "finished with score=" ++ if isValid then "1" else "0"⟩] }

/-- The evaluation of a proof that has an outcome for every line. -/
def evaluate (room : Nat) (p : Proof) (level : Value) : Evaluation :=
  p.report level (p.lines.map fun l => (l, p.checkLine room l))

/-- The outcome for a line, if the evaluation gets past it: a fault of applying a rule is recorded,
any other is not, and the line has to be written into the log. -/
def outcome (room : Nat) (p : Proof) (l : Line) : Except Error (Except CheckFault Bool) :=
  match p.checkLine room l with
  | .ok valid => do
    let _ ← l.write
    return .ok valid
  | .error f =>
    if f.isOfApplication then do
      let _ ← l.write
      return .error f
    else throw (.check f)

/-- The evaluation and the records that pass, with options by name. The only option is the level of
the log. -/
def evaluateWith (room : Nat) (p : Proof) (options : List (String × Value)) :
    Except Error (Evaluation × List Record) := do
  if options.any fun o => o.1 != "log_level" then .error .wrongKind
  let level := (options.lookup "log_level").getD (.int 0)
  let n ← Level.ofValue level
  if !level.isWritable then .error .numberTooLong
  let outcomes ← p.lines.mapM fun l => do return (l, ← p.outcome room l)
  let e := p.report level outcomes
  .ok (e, e.passed n)

end Proof

end NaturalDeduction
