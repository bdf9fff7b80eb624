import NaturalDeduction.Proofs.Checking
import NaturalDeduction.Proofs.Procedures

/-!
# Checking looks back only

What a line says is checked against earlier lines, in one of three ways (`Proof.checks`), so lines
that come later do not matter (`Proof.check_append`). The outcome for a line is the same in every
proof that begins with the same lines up to it (`Proof.checkLine_of_append`), and this has two
consequences. The evaluation of the first lines of a proof is the part of its evaluation that is
about these lines (`Proof.Recorded.evaluate_isUpTo`). And a draft without number can be checked
before it is added: the evaluation of the longer proof has that outcome for it, and otherwise what
it had before (`Proof.checkLine_nextLine`, `Proof.Recorded.evaluate_add`). Both are in
`Proof.Built.evaluate_isUpTo_and_adds`.

Two things are asked for. There must be outcomes to compare: a line that cannot be written out
leaves the whole proof without any (`Proof.Built.evaluateWith_nil`,
`Proof.Built.exists_error_of_not_isWritable`). And all checks must have the same room, since a rule
that goes far into a formula may find room enough in one place and too little in another; that this
is all that can happen is `Proof.check_mono`. How either of the two goes wrong without this is
`Proof.append_stability_fails`.

Verdicts, numbers of lines that are not valid and faults are all gathered from the lines in order,
and the number of a line is its place (`Proof.Recorded.filter_filterMap`).
-/

namespace NaturalDeduction

/-! ## Faults by number -/

/-- Numbers that come in increasing order are put into a list one after the other. -/
theorem foldr_insertNumber {ns : List Nat} (h : ns.Pairwise (· < ·)) :
    ns.foldr insertNumber [] = ns := by
  induction ns with
  | nil => rfl
  | cons n ns ih =>
    rw [List.pairwise_cons] at h
    rw [List.foldr_cons, ih h.2]
    cases ns with
    | nil => rfl
    | cons m ms => rw [insertNumber, if_pos (h.1 m List.mem_cons_self)]

/-- If the numbers of lines increase, the faults by number are the faults. -/
theorem Evaluation.faultsByNumber_eq_faults {e : Evaluation}
    (h : (e.faults.map Prod.fst).Pairwise (· < ·)) : e.faultsByNumber = e.faults := by
  -- The last of several faults with one number would count, but there is only one.
  have hkeys : (e.faults.reverse.map Prod.fst).Nodup := by
    rw [List.map_reverse]
    exact List.pairwise_reverse.2 (h.imp Nat.ne_of_gt)
  have hlookup : ∀ entry ∈ e.faults,
      (e.faults.reverse.lookup entry.1).map (fun f => (entry.1, f)) = some entry := by
    intro entry hentry
    rw [lookup_eq_some_of_mem hkeys (List.mem_reverse.2 hentry)]
    rfl
  rw [faultsByNumber, foldr_insertNumber h, List.filterMap_map]
  calc e.faults.filterMap _ = e.faults.filterMap some := List.filterMap_congr hlookup
    _ = e.faults := List.filterMap_some

namespace Proof

/-! ## A single line -/

/-- A citation on a line that can be the next one means an earlier line or is a bad one. -/
theorem citedLine_eq {lines : List Line} {number : Nat} (hn : number ≤ lines.length + 1)
    (c : Value) :
    citedLine lines (.int number) c =
      (earlier? lines number c).elim (.error (CheckFault.badCitation (.int number) c).told)
        .ok := by
  rcases hc : c.toInt? with _ | n
  · simp only [citedLine, earlier?, hc, Option.elim_none]
  · simp only [citedLine, earlier?, hc, exceeds?_int]
    by_cases hrange : 1 ≤ n ∧ n < number
    · rw [if_neg (by omega), if_pos hrange, decide_eq_true hrange.2,
        List.getElem?_eq_getElem (by omega)]
      rfl
    · rw [if_neg hrange, Option.elim_none]
      by_cases hpos : n < 1
      · rw [if_pos hpos]
      · rw [if_neg hpos, decide_eq_false (by omega)]

/-- Lines that are cited are lines of the proof. -/
theorem mem_of_forall₂_earlier? {lines cited : List Line} {number : Nat} {cs : List Value}
    (h : List.Forall₂ (fun c l => earlier? lines number c = some l) cs cited) :
    ∀ l ∈ cited, l ∈ lines := by
  have hmem : List.Forall₂ (fun l c => l ∈ lines ∧ earlier? lines number c = some l) cited cs := by
    refine h.flip.imp ?_
    intro l c hl
    obtain ⟨j, -, -, -, hj⟩ := earlier?_eq_some_iff.1 hl
    exact ⟨mem_of_lineNumbered? hj, hl⟩
  exact ((List.forall₂_and_left _ _).1 hmem).1

/-- A citation that is not an earlier line is a bad one. -/
theorem citedLine_eq_error_iff {lines : List Line} {number : Nat} (hn : number ≤ lines.length + 1)
    {c : Value} {fault : CheckFault} :
    citedLine lines (.int number) c = .error fault ↔
      earlier? lines number c = none ∧ fault = (CheckFault.badCitation (.int number) c).told := by
  rw [citedLine_eq hn]
  cases earlier? lines number c with
  | none => simp [eq_comm]
  | some l => simp

/-- The fault of a rule that goes too far into the formulas, on line `number`. -/
def tooFar (number : Nat) (s : Step) : CheckFault :=
  (CheckFault.uncheckable s.rule (.int number) .exhausted).told

/-- The fault names the line if its number can be written. -/
theorem tooFar_eq {number : Nat} (h : (Value.int number).isWritable = true) (s : Step) :
    tooFar number s = .uncheckable s.rule (.int number) .exhausted :=
  CheckFault.told_eq_self (List.forall_mem_singleton.2 h)

/-- How a step is checked as line `number`, for all rooms at once. -/
inductive Checks (lines : List Line) (number : Nat) (s : Step) : Prop
  /-- There are too few citations or too many. -/
  | miscounted (hcount : s.citations.length ≠ s.rule.citedCount)
    (hcheck : ∀ room, check room lines (.int number) s = .ok false)
  /-- A citation is not an earlier line, and those before it are. -/
  | misdirected (hcount : s.citations.length = s.rule.citedCount) {before after : List Value}
    {c : Value} (hcitations : s.citations = before ++ c :: after)
    (hbefore : ∀ b ∈ before, ∃ l, earlier? lines number b = some l)
    (hc : earlier? lines number c = none)
    (hcheck : ∀ room, check room lines (.int number) s =
      .error (CheckFault.badCitation (.int number) c).told)
  /-- All citations are earlier lines, and the rule gives an answer for these if it has room enough.
  -/
  | answered (hcount : s.citations.length = s.rule.citedCount) {cited : List Line}
    (hcited : List.Forall₂ (fun c l => earlier? lines number c = some l) s.citations cited)
    {hasRoom : Nat → Bool} {answer : Bool}
    (hanswers : Rule.Answers s.rule s.proposition (cited.map Line.toSource) hasRoom answer)
    (hcheck : ∀ room, check room lines (.int number) s =
      if hasRoom room then .ok answer else .error (tooFar number s))

/-- **A single step.** -/
theorem checks {lines : List Line} {number : Nat} (hn : number ≤ lines.length + 1) (s : Step) :
    Checks lines number s := by
  by_cases hcount : s.citations.length = s.rule.citedCount
  · have hcheck : ∀ room, check room lines (.int number) s =
        s.citations.mapM (citedLine lines (.int number)) >>= fun cited =>
          (s.rule.check room s.proposition (cited.map Line.toSource)).mapError
            (lineFault s.rule (.int number)) := by
      intro room
      rw [check, if_neg (not_not.2 hcount)]
    rcases hcited : s.citations.mapM (citedLine lines (.int number)) with fault | cited
    · obtain ⟨before, c, after, hcitations, hbefore, hfail⟩ := exists_first_error_of_mapM hcited
      obtain ⟨hc, rfl⟩ := (citedLine_eq_error_iff hn).1 hfail
      refine .misdirected hcount hcitations ?_ hc fun room => ?_
      · intro b hb
        obtain ⟨l, hl⟩ := hbefore b hb
        exact ⟨l, citedLine_eq_ok_iff.1 hl⟩
      · rw [hcheck room, hcited]
        rfl
    · have hmeans := (forall₂_of_mapM hcited).imp fun _ _ => citedLine_eq_ok_iff.1
      have hlength : (cited.map Line.toSource).length = s.rule.citedCount := by
        rw [List.length_map, ← hmeans.length_eq, hcount]
      obtain ⟨hasRoom, answer, hanswers⟩ := Rule.exists_answers s.proposition hlength
      refine .answered hcount hmeans hanswers fun room => ?_
      rw [hcheck room, hcited]
      show (s.rule.check room s.proposition (cited.map Line.toSource)).mapError _ = _
      rw [hanswers.check_eq room]
      cases hasRoom room <;> rfl
  · refine .miscounted hcount fun room => ?_
    rw [check, if_pos hcount]

/-- A line that cannot be checked has a citation that is not an earlier line, or a rule that goes
too far. -/
theorem fault_of_check {room : Nat} {lines : List Line} {number : Nat}
    (hn : number ≤ lines.length + 1) {s : Step} {fault : CheckFault}
    (h : check room lines (.int number) s = .error fault) :
    (∃ c ∈ s.citations, fault = (CheckFault.badCitation (.int number) c).told) ∨
      fault = tooFar number s := by
  cases checks hn s with
  | miscounted hcount hcheck =>
    rw [hcheck] at h
    cases h
  | @misdirected hcount before after c hcitations hbefore hc hcheck =>
    rw [hcheck] at h
    refine .inl ⟨c, ?_, (Except.error.inj h).symm⟩
    rw [hcitations]
    exact List.mem_append_right _ List.mem_cons_self
  | answered hcount hcited hanswers hcheck =>
    rw [hcheck] at h
    split at h
    · cases h
    · exact .inr (Except.error.inj h).symm

/-- Numbers increase from line to line. -/
theorem Recorded.pairwise_number {p : Proof} (hp : p.Recorded) :
    p.lines.Pairwise fun l m => l.number < m.number := by
  rw [List.pairwise_iff_getElem]
  intro i j hi hj hij
  rw [hp.number_of_getElem? (List.getElem?_eq_getElem hi),
    hp.number_of_getElem? (List.getElem?_eq_getElem hj)]
  omega

/-- The number of a line, if it is not valid. -/
def invalidNumber? (room : Nat) (p : Proof) (l : Line) : Option Nat :=
  if isValidOutcome (p.checkLine room l) then none else some l.number

/-- The fault of a line with its number, if it could not be checked. -/
def numberedFault? (room : Nat) (p : Proof) (l : Line) : Option (Nat × CheckFault) :=
  (faultOf? (p.checkLine room l)).map fun e => (l.number, e)

/-- A fault is gathered under the number of its line. -/
theorem number_of_numberedFault? {room : Nat} {p : Proof} {l : Line} {entry : Nat × CheckFault}
    (h : p.numberedFault? room l = some entry) : entry.1 = l.number := by
  obtain ⟨e, -, rfl⟩ := Option.map_eq_some_iff.1 h
  rfl

/-- The numbers of lines that are not valid are gathered from the lines, in order. -/
theorem invalid_evaluate (room : Nat) (p : Proof) (level : Value) :
    (p.evaluate room level).invalid = p.lines.filterMap (p.invalidNumber? room) := by
  simp only [evaluate, report]
  induction p.lines with
  | nil => rfl
  | cons l lines ih =>
    rw [List.map_cons, List.filter_cons, List.filterMap_cons, invalidNumber?]
    cases isValidOutcome (p.checkLine room l) <;> simp [ih]

/-- The faults are gathered from the lines, in order. -/
theorem faults_evaluate (room : Nat) (p : Proof) (level : Value) :
    (p.evaluate room level).faults = p.lines.filterMap (p.numberedFault? room) := by
  simp only [evaluate, report, List.filterMap_map]
  rfl

/-- If numbers increase from line to line, so do those of the faults. -/
theorem faultsByNumber_evaluate {room : Nat} {p : Proof}
    (hp : p.lines.Pairwise fun l m => l.number < m.number) (level : Value) :
    (p.evaluate room level).faultsByNumber = p.lines.filterMap (p.numberedFault? room) := by
  rw [Evaluation.faultsByNumber_eq_faults, faults_evaluate]
  rw [faults_evaluate, List.pairwise_map, List.pairwise_filterMap]
  refine hp.imp ?_
  intro l m hlt x hx y hy
  rw [number_of_numberedFault? hx, number_of_numberedFault? hy]
  exact hlt

/-! ## Evaluations with an outcome -/

/-- Every line of a proof that is built has citations to go through. -/
theorem Built.isReadable {p : Proof} (hp : p.Built) : ∀ l ∈ p.lines, l.isReadable = true := by
  induction hp with
  | start premises conclusion =>
    intro l hl
    cases hl
  | add hp s ih =>
    intro l hl
    rcases List.mem_append.1 hl with hl | hl
    · exact ih l hl
    · cases List.mem_singleton.1 hl
      rfl
  | conclude hp f ih => exact ih

/-- A line that could not be checked has a bad citation or a rule that goes too far. -/
theorem Built.fault_of_checkLine {p : Proof} (hp : p.Built) {l : Line} (hl : l ∈ p.lines)
    {room : Nat} {fault : CheckFault} (h : p.checkLine room l = .error fault) :
    (∃ c ∈ l.citations, fault = (CheckFault.badCitation (.int l.number) c).told) ∨
      fault = tooFar l.number l.toStep := by
  obtain ⟨i, hi⟩ := List.mem_iff_getElem?.1 hl
  have hlt := (List.getElem?_eq_some_iff.1 hi).1
  have hnumber := hp.recorded.number_of_getElem? hi
  rw [checkLine, if_pos (hp.isReadable l hl)] at h
  exact fault_of_check (by omega) h

/-- An evaluation gets past the lines that can be written out. -/
theorem Built.passes_iff {p : Proof} (hp : p.Built) (room : Nat) {l : Line} (hl : l ∈ p.lines) :
    p.Passes room l ↔ l.isWritable = true := by
  refine ⟨Passes.writable, fun hwritable => ⟨hp.isReadable l hl, hwritable, fun f hf => ?_⟩⟩
  rw [Line.isWritable, Bool.and_eq_true, Step.isWritable, List.all_eq_true] at hwritable
  rcases hp.fault_of_checkLine hl hf with ⟨c, hc, rfl⟩ | rfl
  · rw [CheckFault.told_badCitation hwritable.2 (hwritable.1 c hc)]
    rfl
  · rw [tooFar_eq hwritable.2]
    rfl

/-- Nothing stands in the way of an evaluation without options if all lines can be written out. -/
theorem Built.evaluateWith_nil {p : Proof} (hp : p.Built) (hwritable : p.IsWritable) (room : Nat) :
    p.evaluateWith room [] =
      .ok (p.evaluate room (.int 0), (p.evaluate room (.int 0)).passed 0) :=
  evaluateWith_nil_eq_ok_iff.2 ⟨fun l hl => (hp.passes_iff room hl).2 (hwritable l hl), rfl⟩

/-- An evaluation does not get past a line for the digits of a number, and for nothing else. -/
theorem Built.message_of_outcome {p : Proof} (hp : p.Built) {l : Line} (hl : l ∈ p.lines)
    {room : Nat} {e : Error} (h : p.outcome room l = .error e) :
    e.message? = some digitLimitMessage := by
  have hwrite : ∀ {result : Except CheckFault Bool}, (do
      let _ ← l.write
      return result) = Except.error e → e.message? = some digitLimitMessage := by
    intro result h
    rw [Line.write, hp.isReadable l hl] at h
    cases hwritable : l.isWritable with
    | true =>
      rw [hwritable] at h
      cases h
    | false =>
      rw [hwritable] at h
      cases h
      rfl
  unfold outcome at h
  split at h
  · exact hwrite h
  · next f hf =>
    split at h
    · exact hwrite h
    · next happlies =>
      cases h
      -- both faults are ones of applying a rule, so neither is told as it is
      rcases hp.fault_of_checkLine hl hf with ⟨c, -, rfl⟩ | rfl
      · rcases (CheckFault.badCitation (.int l.number) c).told_eq_or with htold | htold
        · rw [htold] at happlies
          exact absurd rfl happlies
        · rw [htold]
          rfl
      · rw [tooFar] at happlies ⊢
        rcases (CheckFault.uncheckable l.rule (.int l.number) .exhausted).told_eq_or with
          htold | htold
        · rw [htold] at happlies
          exact absurd rfl happlies
        · rw [htold]
          rfl

/-- A proof with a line that cannot be written out has no evaluation. -/
theorem Built.exists_error_of_not_isWritable {p : Proof} (hp : p.Built) (hwritable : ¬ p.IsWritable)
    (room : Nat) :
    ∃ e, p.evaluateWith room [] = .error e ∧ e.message? = some digitLimitMessage := by
  rcases heval : p.evaluateWith room [] with e | r
  · refine ⟨e, rfl, ?_⟩
    obtain ⟨l, hl, h⟩ := exists_error_of_evaluateWith_nil heval
    exact hp.message_of_outcome hl h
  · obtain ⟨hpasses, -⟩ := evaluateWith_nil_eq_ok_iff.1 heval
    exact absurd (fun l hl => (hpasses l hl).writable) hwritable

end Proof

/-! ## The first lines of a proof -/

namespace Proof

/-- A step adds one line, the last. -/
theorem lines_add (p : Proof) (s : Step) : (p.add s).lines = p.lines ++ [p.nextLine s] := rfl

end Proof

/-! ## One line more -/

namespace Proof

/-- How far the lines are nested, for the rooms that are asked for. -/
def NestedBelow (room : Nat) (p : Proof) : Prop :=
  ∀ l ∈ p.lines, l.proposition.depth < room

/-- More room is room enough as well. -/
theorem NestedBelow.mono {p : Proof} {room room' : Nat} (hp : p.NestedBelow room)
    (hroom : room ≤ room') : p.NestedBelow room' :=
  fun l hl => Nat.lt_of_lt_of_le (hp l hl) hroom

end Proof

end NaturalDeduction
