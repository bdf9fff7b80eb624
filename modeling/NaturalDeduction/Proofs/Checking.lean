import NaturalDeduction.Proof.Evaluation
import NaturalDeduction.Proofs.Building

/-!
# What a full score says

The citations of a valid line mean earlier lines, as many as its rule wants, and the rule leads from
them to the line (`Proof.exists_follows_of_checkLine`).
A proof has the full score exactly if all of its lines are valid, the last one is the conclusion and
rests on nothing (`Proof.score_evaluate_eq_one_iff`).

An evaluation has an outcome exactly if every line can be written out and has no other fault than
one of applying its rule (`Proof.outcome_eq_ok_iff`, `Proof.evaluateWith_nil_eq_ok_iff`).
-/

namespace NaturalDeduction.Proof

/-! ## A single line -/

/-- A number of a line is greater than a citation or is not. -/
theorem exceeds?_int (number : Nat) (n : Int) :
    exceeds? (.int number) n = some (decide (n < number)) := by
  simp only [exceeds?, Value.extent?, Value.toInt?, Option.map_some, Extent.lt_ofInt]

/-- To be found when a line is checked is to be an earlier line. -/
theorem citedLine_eq_ok_iff {lines : List Line} {number : Nat} {c : Value} {l : Line} :
    citedLine lines (.int number) c = .ok l ↔ earlier? lines number c = some l := by
  rcases hc : c.toInt? with _ | n
  · simp [citedLine, earlier?, hc]
  · simp only [citedLine, earlier?, hc, exceeds?_int]
    by_cases hpos : n < 1
    · have hrange : ¬ (1 ≤ n ∧ n < number) := by omega
      simp [hpos, hrange]
    · by_cases hlt : n < number
      · have hrange : 1 ≤ n ∧ n < number := ⟨by omega, hlt⟩
        simp only [if_neg hpos, if_pos hrange, decide_eq_true hlt]
        cases lines[n.toNat - 1]? <;> simp
      · simp [hpos, hlt]

/-- What makes a line of a proof valid: the earlier lines that it cites, and that it follows from
them. -/
structure Follows (lines : List Line) (l : Line) (cited : List Line) : Prop where
  /-- The citations mean these lines. -/
  means : List.Forall₂ (fun c m => earlier? lines l.number c = some m) l.citations cited
  /-- They are as many as the rule wants. -/
  count : cited.length = l.rule.citedCount
  /-- The rule allows the step, if it has room enough. -/
  allowed : ∃ room, l.rule.check room l.proposition (cited.map Line.toSource) = .ok true

/-- A check that ends well has found what is cited, and the rule has answered. -/
theorem check_eq_ok_iff {room : Nat} {lines : List Line} {number : Value} {s : Step} {valid : Bool}
    (hcount : s.citations.length = s.rule.citedCount) :
    check room lines number s = .ok valid ↔
      ∃ cited, s.citations.mapM (citedLine lines number) = .ok cited ∧
        s.rule.check room s.proposition (cited.map Line.toSource) = .ok valid := by
  rw [check, if_neg (not_not.2 hcount)]
  constructor
  · intro h
    obtain ⟨cited, hcited, h⟩ := exists_ok_of_bind h
    refine ⟨cited, hcited, ?_⟩
    cases hrule : s.rule.check room s.proposition (cited.map Line.toSource) with
    | error cause =>
      rw [hrule] at h
      cases h
    | ok b =>
      rw [hrule] at h
      cases h
      rfl
  · rintro ⟨cited, hcited, hrule⟩
    rw [hcited]
    exact congrArg (Except.mapError _) hrule

/-- What a valid line follows from. -/
theorem exists_follows_of_checkLine {room : Nat} {p : Proof} {l : Line}
    (h : p.checkLine room l = .ok true) : ∃ cited, Follows p.lines l cited := by
  unfold checkLine at h
  split at h
  · by_cases hcount : l.citations.length = l.rule.citedCount
    · obtain ⟨cited, hcited, hrule⟩ := (check_eq_ok_iff hcount).1 h
      have hmeans := (forall₂_of_mapM hcited).imp fun _ _ => citedLine_eq_ok_iff.1
      exact ⟨cited, hmeans, hmeans.length_eq.symm.trans hcount, room, hrule⟩
    · rw [check, if_pos hcount] at h
      cases h
  · cases h

/-! ## The whole proof -/

/-- What a proof must be like to have the full score. -/
structure Accepted (room : Nat) (p : Proof) : Prop where
  /-- All lines are valid. -/
  valid : ∀ l ∈ p.lines, p.checkLine room l = .ok true
  /-- The last line is the conclusion and rests on nothing. -/
  last : ∃ l f, p.lines.getLast? = some l ∧ p.conclusion = some f ∧ l.proposition.same f = true ∧
    l.assumptions = []

/-- A line is valid if it was checked and the answer was yes. -/
theorem isValidOutcome_iff {outcome : Except CheckFault Bool} :
    isValidOutcome outcome = true ↔ outcome = .ok true := by
  cases outcome with
  | error e => simp [isValidOutcome]
  | ok valid => simp [isValidOutcome]

/-- **The full score**: all lines are valid, and the last one is the conclusion and rests on
nothing. -/
theorem score_evaluate_eq_one_iff {room : Nat} {p : Proof} {level : Value} :
    (p.evaluate room level).score = 1 ↔ p.Accepted room := by
  have hscore : (p.evaluate room level).score = 1 ↔ (p.evaluate room level).isValid = true := by
    unfold Evaluation.score
    split <;> simp_all
  have hlines : ((p.lines.map fun l => (l, p.checkLine room l)).filter
      fun o => !isValidOutcome o.2) = [] ↔ ∀ l ∈ p.lines, p.checkLine room l = .ok true := by
    rw [List.filter_eq_nil_iff]
    simp [isValidOutcome_iff]
  rw [hscore]
  simp only [evaluate, report, Bool.and_eq_true, List.isEmpty_iff, List.map_eq_nil_iff, hlines,
    endsWithConclusion, openAssumptions]
  constructor
  · rintro ⟨⟨hvalid, hends⟩, hopen⟩
    split at hends
    · next l f hl hf =>
      rw [hl] at hopen
      exact ⟨hvalid, l, f, hl, hf, hends, hopen⟩
    · cases hends
  · rintro ⟨hvalid, l, f, hl, hf, hsame, hopen⟩
    simp only [hl, hf]
    exact ⟨⟨hvalid, hsame⟩, hopen⟩

/-! ## Evaluations with an outcome -/

/-- Whether all lines of a proof can be written out. -/
def IsWritable (p : Proof) : Prop :=
  ∀ l ∈ p.lines, l.isWritable = true

/-- One more line that can be written out. -/
theorem IsWritable.add {p : Proof} (hp : p.IsWritable) {s : Step}
    (hs : (p.nextLine s).isWritable = true) : (p.add s).IsWritable := by
  intro l hl
  rcases List.mem_append.1 hl with hl | hl
  · exact hp l hl
  · cases List.mem_singleton.1 hl
    exact hs

/-- A citation that cannot be written, on whatever line, stands in the way of writing the lines out. -/
theorem not_isWritable_of_citation {p : Proof} {l : Line} (hl : l ∈ p.lines) {c : Value}
    (hc : c ∈ l.citations) (h : c.isWritable = false) : ¬ p.IsWritable := by
  intro hall
  have hline := hall l hl
  rw [Line.isWritable, Bool.and_eq_true, Step.isWritable, List.all_eq_true] at hline
  rw [hline.1 c hc] at h
  cases h

/-- The number of a line is its place, counted from one. -/
theorem Recorded.number_of_getElem? {p : Proof} (hp : p.Recorded) {i : Nat} {l : Line}
    (h : p.lines[i]? = some l) : l.number = i + 1 :=
  hp.number_eq (i := i + 1) h

/-- Unless there are very many lines, only citations can stand in the way of writing them out. -/
theorem Recorded.isWritable {p : Proof} (hp : p.Recorded)
    (hlength : p.lines.length ≤ Value.digitLimit)
    (hcitations : ∀ c ∈ p.lines.flatMap fun l => l.citations, c.isWritable = true) :
    p.IsWritable := by
  intro l hl
  obtain ⟨i, hi⟩ := List.mem_iff_getElem?.1 hl
  have hlt := (List.getElem?_eq_some_iff.1 hi).1
  rw [Line.isWritable, Bool.and_eq_true, Step.isWritable, List.all_eq_true,
    hp.number_of_getElem? hi]
  refine ⟨fun c hc => hcitations c (List.mem_flatMap.2 ⟨l, hl, hc⟩), ?_⟩
  exact Value.isWritable_of_natAbs_le (by omega)

/-- A line is written out if it can be read and its citations can be written. -/
theorem exists_write_iff {l : Line} :
    (∃ text, l.write = .ok text) ↔ l.isReadable = true ∧ l.isWritable = true := by
  unfold Line.write
  cases l.isReadable <;> cases l.isWritable <;> simp

/-- What an evaluation needs of a line: it can be written out, and if it could not be checked, this
is a fault of applying its rule. -/
structure Passes (room : Nat) (p : Proof) (l : Line) : Prop where
  /-- There are citations to go through. -/
  readable : l.isReadable = true
  /-- The line can be written out. -/
  writable : l.isWritable = true
  /-- No other fault. -/
  applies : ∀ f, p.checkLine room l = .error f → f.isOfApplication = true

/-- An evaluation gets past a line with the outcome of checking it, or not at all. -/
theorem outcome_eq_ok_iff {room : Nat} {p : Proof} {l : Line} {result : Except CheckFault Bool} :
    p.outcome room l = .ok result ↔ p.Passes room l ∧ result = p.checkLine room l := by
  have hwrite : ∀ r, (do
      let _ ← l.write
      return r) = Except.ok result ↔ (∃ text, l.write = .ok text) ∧ result = r := by
    intro r
    cases l.write with
    | error e => simp [bind, Except.bind]
    | ok text => simp [bind, Except.bind, pure, Except.pure, eq_comm]
  unfold outcome
  cases hcheck : p.checkLine room l with
  | ok valid =>
    dsimp only
    rw [hwrite, exists_write_iff]
    refine and_congr_left' ⟨fun h => ⟨h.1, h.2, ?_⟩, fun h => ⟨h.readable, h.writable⟩⟩
    intro f hf
    rw [hcheck] at hf
    cases hf
  | error f =>
    dsimp only
    by_cases happlies : f.isOfApplication = true
    · rw [if_pos happlies, hwrite, exists_write_iff]
      refine and_congr_left' ⟨fun h => ⟨h.1, h.2, ?_⟩, fun h => ⟨h.readable, h.writable⟩⟩
      intro g hg
      rw [hcheck] at hg
      cases hg
      exact happlies
    · rw [if_neg happlies]
      constructor
      · intro h
        cases h
      · rintro ⟨hpasses, -⟩
        exact absurd (hpasses.applies f hcheck) happlies

/-- The outcomes for the lines, if the evaluation gets past all of them. -/
theorem mapM_outcome_eq_ok_iff {room : Nat} {p : Proof} {ls : List Line}
    {outcomes : List (Line × Except CheckFault Bool)} :
    (ls.mapM fun l => do return (l, ← p.outcome room l)) = Except.ok outcomes ↔
      (∀ l ∈ ls, p.Passes room l) ∧ outcomes = ls.map fun l => (l, p.checkLine room l) := by
  induction ls generalizing outcomes with
  | nil => simp [pure, Except.pure, eq_comm]
  | cons l ls ih =>
    rw [List.mapM_cons, List.forall_mem_cons, List.map_cons]
    constructor
    · intro h
      obtain ⟨entry, hentry, h⟩ := exists_ok_of_bind h
      obtain ⟨result, hresult, hentry⟩ := exists_ok_of_bind hentry
      obtain ⟨rest, hrest, h⟩ := exists_ok_of_bind h
      cases hentry
      cases h
      obtain ⟨hpasses, rfl⟩ := outcome_eq_ok_iff.1 hresult
      obtain ⟨hrests, rfl⟩ := ih.1 hrest
      exact ⟨⟨hpasses, hrests⟩, rfl⟩
    · rintro ⟨⟨hpasses, hrests⟩, rfl⟩
      rw [outcome_eq_ok_iff.2 ⟨hpasses, rfl⟩, ih.2 ⟨hrests, rfl⟩]
      rfl

/-- The outcome of an evaluation is what checking all lines gives. -/
theorem exists_evaluate_of_evaluateWith {room : Nat} {p : Proof} {options : List (String × Value)}
    {e : Evaluation} {log : List Record} (h : p.evaluateWith room options = .ok (e, log)) :
    ∃ level, e = p.evaluate room level := by
  simp only [evaluateWith] at h
  split at h
  · cases h
  · obtain ⟨n, hn, h⟩ := exists_ok_of_bind h
    split at h
    · cases h
    · obtain ⟨outcomes, houtcomes, h⟩ := exists_ok_of_bind h
      obtain ⟨-, rfl⟩ := mapM_outcome_eq_ok_iff.1 houtcomes
      cases h
      exact ⟨_, rfl⟩

/-- An evaluation without options goes through the lines. -/
theorem evaluateWith_nil_eq (room : Nat) (p : Proof) :
    p.evaluateWith room [] =
      (p.lines.mapM fun l => do return (l, ← p.outcome room l)) >>= fun outcomes =>
        .ok (p.report (.int 0) outcomes, (p.report (.int 0) outcomes).passed 0) := by
  have hzero : (Value.int 0).isWritable = true := Value.isWritable_of_natAbs_le (Nat.zero_le _)
  show (if !(Value.int 0).isWritable then _ else _) = _
  rw [hzero]
  rfl

/-- An evaluation without an outcome has failed at a line. -/
theorem exists_error_of_evaluateWith_nil {room : Nat} {p : Proof} {e : Error}
    (h : p.evaluateWith room [] = .error e) : ∃ l ∈ p.lines, p.outcome room l = .error e := by
  rw [evaluateWith_nil_eq] at h
  cases houtcomes : p.lines.mapM fun l => do return (l, ← p.outcome room l) with
  | ok outcomes =>
    rw [houtcomes] at h
    cases h
  | error e' =>
    rw [houtcomes] at h
    cases h
    obtain ⟨l, hl, hfail⟩ := exists_error_of_mapM houtcomes
    refine ⟨l, hl, ?_⟩
    cases houtcome : p.outcome room l with
    | ok result =>
      rw [houtcome] at hfail
      cases hfail
    | error e'' =>
      rw [houtcome] at hfail
      cases hfail
      rfl

/-- An evaluation without options has an outcome exactly if it gets past every line. -/
theorem evaluateWith_nil_eq_ok_iff {room : Nat} {p : Proof} {r : Evaluation × List Record} :
    p.evaluateWith room [] = .ok r ↔ (∀ l ∈ p.lines, p.Passes room l) ∧
      r = (p.evaluate room (.int 0), (p.evaluate room (.int 0)).passed 0) := by
  rw [evaluateWith_nil_eq]
  constructor
  · intro h
    obtain ⟨outcomes, houtcomes, h⟩ := exists_ok_of_bind h
    obtain ⟨hpasses, rfl⟩ := mapM_outcome_eq_ok_iff.1 houtcomes
    cases h
    exact ⟨hpasses, rfl⟩
  · rintro ⟨hpasses, rfl⟩
    rw [mapM_outcome_eq_ok_iff.2 ⟨hpasses, rfl⟩]
    rfl

/-- A proof that has the full score is evaluated if its citations can be written. -/
theorem evaluateWith_nil_of_score {room : Nat} {p : Proof}
    (hscore : (p.evaluate room (.int 0)).score = 1)
    (hwritable : p.IsWritable) :
    ∃ e log, p.evaluateWith room [] = .ok (e, log) ∧ e.score = 1 := by
  refine ⟨_, _, evaluateWith_nil_eq_ok_iff.2 ⟨fun l hl => ?_, rfl⟩, hscore⟩
  have hvalid := (score_evaluate_eq_one_iff.1 hscore).valid l hl
  refine ⟨?_, hwritable l hl, ?_⟩
  · unfold checkLine at hvalid
    split at hvalid
    · assumption
    · cases hvalid
  · intro f hf
    rw [hvalid] at hf
    cases hf

/-- The full score of an evaluation. -/
theorem accepted_of_score {room : Nat} {p : Proof} {options : List (String × Value)}
    {e : Evaluation} {log : List Record} (h : p.evaluateWith room options = .ok (e, log))
    (hscore : e.score = 1) : p.Accepted room := by
  obtain ⟨level, rfl⟩ := exists_evaluate_of_evaluateWith h
  exact score_evaluate_eq_one_iff.1 hscore

end NaturalDeduction.Proof
