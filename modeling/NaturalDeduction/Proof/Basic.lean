import NaturalDeduction.Proof.Line
import NaturalDeduction.Semantics

/-!
# Proofs

A proof has premises, lines and, once it has been set, a conclusion. Lines are added at the end.
When a line is added it gets its number and the assumptions it rests on: an assumption rests on
itself, a premise and the rules of discharge on nothing, and every other line on what the earlier
lines rest on that it cites (`Proof.assumptionsOf`). The formulas of premise lines are premises.

A fault leaves the proof as it was, since every operation returns the new proof only if all went
well (`Proof.perform`).
-/

namespace NaturalDeduction

/-! ## Sets of line numbers -/

/-- A number put into an increasing list of numbers. -/
def insertNumber (n : Nat) : List Nat → List Nat
  | [] => [n]
  | m :: ms => if n < m then n :: m :: ms else if n = m then m :: ms else m :: insertNumber n ms

/-- The numbers of two increasing lists in one. -/
def unionNumbers (ns ms : List Nat) : List Nat :=
  ns.foldr insertNumber ms

/-- A number that is put into a list is in it, beside those that were. -/
theorem mem_insertNumber {k n : Nat} {ms : List Nat} :
    k ∈ insertNumber n ms ↔ k = n ∨ k ∈ ms := by
  induction ms with
  | nil => simp [insertNumber]
  | cons m ms ih =>
    simp only [insertNumber]
    split
    · simp
    · split
      · next h => simp [h]
      · simp only [List.mem_cons, ih]
        constructor
        · rintro (h | h | h) <;> simp [h]
        · rintro (h | h | h) <;> simp [h]

/-- The union of two lists of numbers has the numbers of both. -/
theorem mem_unionNumbers {k : Nat} {ns ms : List Nat} :
    k ∈ unionNumbers ns ms ↔ k ∈ ns ∨ k ∈ ms := by
  induction ns with
  | nil => simp [unionNumbers]
  | cons n ns ih =>
    have : unionNumbers (n :: ns) ms = insertNumber n (unionNumbers ns ms) := rfl
    rw [this, mem_insertNumber, ih, List.mem_cons, or_assoc]

/-! ## Proofs and their lines -/

/-- A proof. -/
structure Proof where
  /-- The premises. -/
  premises : List Formula
  /-- The conclusion, if it has been set. -/
  conclusion : Option Formula
  /-- The lines in order. -/
  lines : List Line

namespace Proof

/-- The proof without premises, lines and conclusion. -/
def empty : Proof :=
  ⟨[], none, []⟩

/-- The earlier line that a citation on line `number` means. -/
def earlier? (lines : List Line) (number : Nat) (cited : Value) : Option Line :=
  match cited.toInt? with
  | some c => if 1 ≤ c ∧ c < number then lines[c.toNat - 1]? else none
  | none => none

/-- The assumptions of the earlier lines that are cited on line `number`. -/
def citedAssumptions (lines : List Line) (number : Nat) : List Value → List Nat
  | [] => []
  | c :: cs =>
    match earlier? lines number c with
    | some l => unionNumbers l.assumptions (citedAssumptions lines number cs)
    | none => citedAssumptions lines number cs

/-- The assumptions that a step rests on as line `number`. -/
def assumptionsOf (lines : List Line) (number : Nat) (s : Step) : List Nat :=
  if s.rule = .assumption then [number]
  else if s.rule.restsOnNothing then []
  else citedAssumptions lines number s.citations

/-- The premises after a step. -/
def premisesWith (premises : List Formula) (s : Step) : List Formula :=
  if s.rule = .premise then premises ++ [s.proposition] else premises

/-- The line that a step becomes at the end of a proof. -/
def nextLine (p : Proof) (s : Step) : Line :=
  let number := p.lines.length + 1
  ⟨s, number, assumptionsOf p.lines number s, number, none⟩

/-- The proof with one more line. -/
def add (p : Proof) (s : Step) : Proof :=
  { p with premises := premisesWith p.premises s, lines := p.lines ++ [p.nextLine s] }

/-- The proof with a change to a line, at all the places where the line stands. -/
def change (p : Proof) (l : Line) (f : Line → Line) : Proof :=
  { p with lines := p.lines.map fun m => if m.origin = l.origin then f m else m }

/-- The proof with one of its lines added again, and the line as it then is. The line gets a new
number and new assumptions, also at the places where it stands already. If its assumptions depend on
citations that cannot be read, it gets the number alone and is not added. -/
def addAgain (p : Proof) (l : Line) : Proof × Line :=
  let number := p.lines.length + 1
  if l.rule.restsOnCitations && !l.isReadable then
    let renumbered := { l with number }
    (p.change l fun _ => renumbered, renumbered)
  else
    let assumptions := assumptionsOf p.lines number l.toStep
    let renewed := { l with number, assumptions }
    let changed := p.change l fun _ => renewed
    ({ changed with
        premises := premisesWith p.premises l.toStep
        lines := changed.lines ++ [renewed] },
      renewed)

/-- The line at a position counted from zero, where negative positions count from the end. -/
def lineAt (p : Proof) (index : Value) : Except Error Line :=
  match index.toInt? with
  | none => .error .wrongKind
  | some n =>
    let i := if n < 0 then n + p.lines.length else n
    match (if i < 0 then none else p.lines[i.toNat]?) with
    | some l => .ok l
    | none => .error (.check .missingLine)

/-- The proof with a conclusion. -/
def conclude (p : Proof) (v : Value) : Except Error Proof :=
  match Formula.ofValue v with
  | .ok f => .ok { p with conclusion := some f }
  | .error e => .error (.conclusion v e)

/-- A proof from premises and a conclusion, which may be missing. -/
def create (premises conclusion : Value) : Except Error Proof := do
  let some items := premises.items? | .error .wrongKind
  let fs ← items.mapM Formula.ofValue
  let p : Proof := { empty with premises := fs }
  match conclusion with
  | .null => .ok p
  | v => p.conclude v

/-- The lines of a proof, one below the other, written out. -/
def write (p : Proof) : Except Error String := do
  return "\n".intercalate (← p.lines.mapM Line.write)

/-- Whether the premises entail the conclusion. The lines do not matter. -/
def isSemanticallyValid (S : Solver) (p : Proof) : Except Error Bool :=
  match p.conclusion with
  | none => .error .noConclusion
  | some f => .ok (Formula.entails S p.premises f)

/-! ## Commands -/

/-- The changes to a proof. -/
inductive Command where
  /-- A line from arguments: the formula, the rule and, if given, the citations. -/
  | addLine (args : List Value)
  /-- A premise line. -/
  | addPremise (proposition : Value)
  /-- A line with a negated variable, for a number of negations. -/
  | addNegations (n name rule citations : Value)
  /-- A line of the proof once more. -/
  | addAgain (index : Value)
  /-- Another rule for a line, or a value in the place of its citations; nothing else about the line
  changes. -/
  | change (index : Value) (rule citations : Option Value)
  /-- The conclusion. -/
  | conclude (v : Value)

/-- The step that a formula, a rule and citations make; citations are looked at first, then the
formula, then the rule. -/
def stepOf (proposition : Except Error Formula) (rule : Except Error Rule) (citations : Value) :
    Except Error Step := do
  let cited ← Step.citationsOf citations
  let f ← proposition
  let r ← rule
  .ok ⟨f, r, cited⟩

/-- The proof after a command, and the line that was added or changed. -/
def perform (p : Proof) : Command → Except Error (Proof × Option Line)
  | .addLine args =>
    match args with
    | proposition :: rule :: rest =>
      if 1 < rest.length then .error .wrongKind
      else do
        let s ← stepOf (Formula.ofValue proposition) (Rule.ofValue rule) (rest.getD 0 .null)
        .ok (p.add s, some (p.nextLine s))
    | _ => .error .wrongKind
  | .addPremise proposition => do
    let s ← stepOf (Formula.ofValue proposition) (.ok .premise) .null
    .ok (p.add s, some (p.nextLine s))
  | .addNegations n name rule citations => do
    let f ← Formula.atomOf name
    let some count := n.toInt? | .error .wrongKind
    let s ← stepOf (.ok (f.negations count.toNat)) (Rule.ofValue rule) citations
    .ok (p.add s, some (p.nextLine s))
  | .addAgain index => do
    let l ← p.lineAt index
    let (p', l') := p.addAgain l
    .ok (p', some l')
  | .change index rule citations => do
    let l ← p.lineAt index
    let r ←
      match rule with
      | some v => Rule.ofValue v
      | none => .ok l.rule
    let l' := { l with rule := r }
    let l' :=
      match citations with
      | some v => l'.withCitations v
      | none => l'
    .ok (p.change l fun _ => l', some l')
  | .conclude v => do
    .ok (← p.conclude v, none)

/-- The proof after commands, where one that fails changes nothing. -/
def performAll (p : Proof) : List Command → Proof
  | [] => p
  | c :: cs =>
    match p.perform c with
    | .ok (p', _) => p'.performAll cs
    | .error _ => p.performAll cs

/-! ## Proofs from triples -/

/-- The line that a triple describes: the formula, the rule and the citations. -/
def addTriple (p : Proof) (triple : Value) : Except Error Proof :=
  match triple.items? with
  | none => .error .wrongKind
  | some [proposition, rule, citations] => do
    let (p', _) ← p.perform (.addLine [proposition, rule, citations])
    .ok p'
  | some items => .error (.count 3 items.length)

/-- A proof from triples. Without a conclusion the formula of the last line is the conclusion. -/
def ofTriples (triples : List Value) (conclusion : Value) : Except Error Proof := do
  let p ← triples.foldlM addTriple empty
  match conclusion with
  | .null => .ok { p with conclusion := p.lines.getLast?.map fun l => l.proposition }
  | v => p.conclude v

end Proof

end NaturalDeduction
