import Mathlib.Logic.Relation
import NaturalDeduction.Proofs.Discharge
import NaturalDeduction.Proofs.Parsing

/-!
# The books of a proof

A proof is built by requests: for a line, for a premise line, for a conclusion (`Proof.Request`). A
request may fail, since what it gives as a formula, a rule or citations may be anything. A request
that does not fail adds one line at the end or sets the conclusion, and does nothing else
(`Proof.answer_cases`), so whatever these two keep, a run of requests keeps
(`Proof.answerAll_induction`). Formulas and rules may also be given as such, and not as values;
commands give values, and are requests (`Proof.performAll_eq_answerAll`).

After any run the books are right (`Proof.books_after_requests`). Numbers are places, and the
premises are those that the proof started with and those on the premise lines, in order. The
assumptions of a line were put together from those of the lines it cites, at the time when it was
added; they are those that it rests on (`Proof.Recorded.mem_assumptions_iff`), that is, the
assumption lines to which a chain of citations leads (`Proof.restsOn_iff_chain`). A request that
fails leaves the proof as it was.
-/

namespace NaturalDeduction

/-! ## Increasing numbers -/

/-- Numbers in increasing order stay so when one is put in. -/
theorem pairwise_insertNumber {n : Nat} {ms : List Nat} (h : ms.Pairwise (· < ·)) :
    (insertNumber n ms).Pairwise (· < ·) := by
  induction ms with
  | nil => exact List.pairwise_singleton _ n
  | cons m ms ih =>
    obtain ⟨hm, hms⟩ := List.pairwise_cons.1 h
    unfold insertNumber
    split
    · next hlt =>
      refine List.pairwise_cons.2 ⟨?_, h⟩
      intro k hk
      rcases List.mem_cons.1 hk with rfl | hk
      · exact hlt
      · exact Nat.lt_trans hlt (hm k hk)
    · next hge =>
      split
      · exact h
      · next hne =>
        refine List.pairwise_cons.2 ⟨?_, ih hms⟩
        intro k hk
        rcases mem_insertNumber.1 hk with rfl | hk
        · omega
        · exact hm k hk

/-- The union with numbers in increasing order is in increasing order. -/
theorem pairwise_unionNumbers {ns ms : List Nat} (h : ms.Pairwise (· < ·)) :
    (unionNumbers ns ms).Pairwise (· < ·) := by
  induction ns with
  | nil => exact h
  | cons n ns ih => exact pairwise_insertNumber ih

namespace Proof

/-- The assumptions of cited lines are gathered in increasing order. -/
theorem pairwise_citedAssumptions (lines : List Line) (number : Nat) (cs : List Value) :
    (citedAssumptions lines number cs).Pairwise (· < ·) := by
  induction cs with
  | nil => exact List.Pairwise.nil
  | cons c cs ih =>
    rw [citedAssumptions]
    split
    · exact pairwise_unionNumbers ih
    · exact ih

/-- Assumptions are recorded in increasing order. -/
theorem Recorded.pairwise_assumptions {p : Proof} (hp : p.Recorded) {i : Nat} {l : Line}
    (hl : lineNumbered? p.lines i = some l) : l.assumptions.Pairwise (· < ·) := by
  rw [hp.assumptions_eq hl]
  unfold assumptionsOf
  split
  · exact List.pairwise_singleton _ i
  · split
    · exact List.Pairwise.nil
    · exact pairwise_citedAssumptions _ _ _

/-! ## Chains of citations -/

/-- **The recorded assumptions are those that a line rests on.** -/
theorem Recorded.mem_assumptions_iff {p : Proof} (hp : p.Recorded) {i k : Nat} {l : Line}
    (hl : lineNumbered? p.lines i = some l) : k ∈ l.assumptions ↔ RestsOn p.lines i k := by
  constructor
  · -- citations go backwards, so what they bring in is known by induction on the number of the line
    induction i using Nat.strongRecOn generalizing l with
    | ind i ih =>
      intro hk
      rw [hp.assumptions_eq hl] at hk
      unfold assumptionsOf at hk
      split at hk
      · next hrule =>
        cases List.mem_singleton.1 hk
        exact .itself hl hrule
      · next hassumption =>
        split at hk
        · cases hk
        · next hnothing =>
          obtain ⟨c, hc, m, hm, hkm⟩ := mem_citedAssumptions.1 hk
          obtain ⟨j, hj, hone, hlt, hmj⟩ := earlier?_eq_some_iff.1 hm
          have hcites : Cites p.lines i j := ⟨l, hl, hone, hlt, c, hc, hj⟩
          exact .cited hl hassumption (by simpa using hnothing) hcites (ih j hlt hmj hkm)
  · intro h
    induction h generalizing l with
    | itself hl' hrule =>
      cases hl.symm.trans hl'
      rw [hp.assumptions_of_assumption hl hrule]
      exact List.mem_singleton_self _
    | @cited i j k l' hl' hassumption hnothing hcites _ ih =>
      have hrests : l'.rule.restsOnCitations = true := by
        simp [Rule.restsOnCitations, hassumption, hnothing]
      cases hl.symm.trans hl'
      obtain ⟨m, hm⟩ := hcites.exists_line
      rw [hp.assumptions_of_restsOnCitations hl hrests]
      exact mem_citedAssumptions_of_cites hcites hl hm (ih hm)

/-- Whether line `i` cites line `j` and its rule is none of those that start from nothing or
discharge. -/
def HandsOn (lines : List Line) (i j : Nat) : Prop :=
  (∃ l, lineNumbered? lines i = some l ∧
    l.rule ∉ [.premise, .assumption, .conditionalProof, .indirectProof]) ∧ Cites lines i j

/-- A line hands on assumptions if it is none itself, rests on something, and cites the line they
come from. -/
theorem handsOn_iff {lines : List Line} {i j : Nat} :
    HandsOn lines i j ↔ ∃ l, lineNumbered? lines i = some l ∧ l.rule ≠ .assumption ∧
      l.rule.restsOnNothing = false ∧ Cites lines i j := by
  have hrule : ∀ rule : Rule, rule ∉ [.premise, .assumption, .conditionalProof, .indirectProof] ↔
      rule ≠ .assumption ∧ rule.restsOnNothing = false := by
    intro rule
    cases rule <;> decide
  unfold HandsOn
  simp only [hrule, ← exists_and_right, and_assoc]

/-- What a line rests on is an assumption at the end of a chain of lines, each of which hands on to
the next. -/
theorem restsOn_iff_chain {lines : List Line} {i j : Nat} :
    RestsOn lines i j ↔
      (∃ m, lineNumbered? lines j = some m ∧ m.rule = .assumption) ∧
        Relation.ReflTransGen (HandsOn lines) i j := by
  constructor
  · intro h
    refine ⟨h.assumption_le.2, ?_⟩
    induction h with
    | itself => exact .refl
    | cited hl hassumption hnothing hcites _ ih =>
      exact .head (handsOn_iff.2 ⟨_, hl, hassumption, hnothing, hcites⟩) ih
  · rintro ⟨⟨m, hm, hrule⟩, hchain⟩
    induction hchain using Relation.ReflTransGen.head_induction_on with
    | refl => exact .itself hm hrule
    | head hhands _ ih =>
      obtain ⟨l, hl, hassumption, hnothing, hcites⟩ := handsOn_iff.1 hhands
      exact .cited hl hassumption hnothing hcites ih

end Proof

/-! ## Requests -/

/-- The formula that was given: a formula itself, or a value that has to be one's text. -/
def Formula.ofArgument : Formula ⊕ Value → Except Error Formula
  | .inl f => .ok f
  | .inr v => ofValue v

/-- The rule that was given: a rule itself, or a value that has to be one's name. -/
def Rule.ofArgument : Rule ⊕ Value → Except Error Rule
  | .inl r => .ok r
  | .inr v => ofValue v

namespace Proof

/-- What a proof is built by. Nothing is known about the values that are given. -/
inductive Request where
  /-- A line with a formula, a rule and citations. -/
  | addLine (proposition : Formula ⊕ Value) (rule : Rule ⊕ Value) (citations : Value)
  /-- A premise line. -/
  | addPremise (proposition : Formula ⊕ Value)
  /-- The conclusion. -/
  | conclude (conclusion : Formula ⊕ Value)

/-- The proof after a request. -/
def answer (p : Proof) : Request → Except Error Proof
  | .addLine proposition rule citations => do
    let s ← stepOf (Formula.ofArgument proposition) (Rule.ofArgument rule) citations
    .ok (p.add s)
  | .addPremise proposition => do
    let s ← stepOf (Formula.ofArgument proposition) (.ok .premise) .null
    .ok (p.add s)
  | .conclude (.inl f) => .ok { p with conclusion := some f }
  | .conclude (.inr v) => p.conclude v

/-- The proof after requests, where one that fails changes nothing. -/
def answerAll (p : Proof) : List Request → Proof
  | [] => p
  | r :: rs =>
    match p.answer r with
    | .ok p' => p'.answerAll rs
    | .error _ => p.answerAll rs

/-- The request that a command is, if its arguments are as many as there have to be. -/
def Command.request? : Command → Option Request
  | .addLine [proposition, rule] => some (.addLine (.inr proposition) (.inr rule) .null)
  | .addLine [proposition, rule, citations] =>
    some (.addLine (.inr proposition) (.inr rule) citations)
  | .addPremise proposition => some (.addPremise (.inr proposition))
  | .conclude v => some (.conclude (.inr v))
  | _ => none

/-- A command does what the request does that it is. -/
theorem perform_of_request? {c : Command} {r : Request} (h : c.request? = some r) (p : Proof) :
    (p.perform c).map Prod.fst = p.answer r := by
  have hbind : ∀ (x : Except Error Step),
      (do let s ← x; Except.ok (p.add s, some (p.nextLine s))).map Prod.fst =
        (do let s ← x; Except.ok (p.add s)) := by
    intro x
    cases x <;> rfl
  unfold Command.request? at h
  split at h
  · cases h
    exact hbind _
  · cases h
    exact hbind _
  · cases h
    exact hbind _
  · next v =>
    cases h
    show (do Except.ok (← p.conclude v, none)).map Prod.fst = p.conclude v
    cases p.conclude v <;> rfl
  · cases h

/-- Commands that are requests in another form have the same effect. -/
theorem performAll_eq_answerAll {cs : List Command} {rs : List Request}
    (h : List.Forall₂ (fun c r => c.request? = some r) cs rs) (p : Proof) :
    p.performAll cs = p.answerAll rs := by
  induction h generalizing p with
  | nil => rfl
  | @cons c r cs rs hc _ ih =>
    have hanswer := perform_of_request? hc p
    rw [performAll, answerAll, ← hanswer]
    rcases p.perform c with e | ⟨p', l⟩
    · exact ih p
    · exact ih p'

/-! ## Runs -/

/-- **A request that does not fail adds one line or sets the conclusion.** -/
theorem answer_cases {p p' : Proof} {r : Request} (h : p.answer r = .ok p') :
    (∃ s, p' = p.add s) ∨ ∃ f, p' = { p with conclusion := some f } := by
  cases r with
  | addLine proposition rule citations =>
    obtain ⟨s, -, h⟩ := exists_ok_of_bind h
    injection h with h
    exact .inl ⟨s, h.symm⟩
  | addPremise proposition =>
    obtain ⟨s, -, h⟩ := exists_ok_of_bind h
    injection h with h
    exact .inl ⟨s, h.symm⟩
  | conclude conclusion =>
    right
    cases conclusion with
    | inl f =>
      injection h with h
      exact ⟨f, h.symm⟩
    | inr v => exact exists_conclusion_of_conclude h

/-- Any line can be asked for, whatever it says and cites. -/
theorem answer_of_step (p : Proof) (s : Step) :
    p.answer (.addLine (.inl s.proposition) (.inl s.rule) (.list s.citations)) = .ok (p.add s) := by
  rcases s with ⟨f, rule, _ | ⟨c, cs⟩⟩
  · rfl
  · rfl

/-- What lines and conclusions keep, a run of requests keeps. -/
theorem answerAll_induction {P : Proof → Prop} (hadd : ∀ {p : Proof} (s : Step), P p → P (p.add s))
    (hconclude : ∀ {p : Proof} (f : Formula), P p → P { p with conclusion := some f }) {p : Proof}
    (hp : P p) (rs : List Request) : P (p.answerAll rs) := by
  induction rs generalizing p with
  | nil => exact hp
  | cons r rs ih =>
    rw [answerAll]
    split
    · next p' h =>
      apply ih
      rcases answer_cases h with ⟨s, rfl⟩ | ⟨f, rfl⟩
      · exact hadd s hp
      · exact hconclude f hp
    · exact ih hp

/-- Requests can be answered in two parts. -/
theorem answerAll_append (p : Proof) (rs rs' : List Request) :
    p.answerAll (rs ++ rs') = (p.answerAll rs).answerAll rs' := by
  induction rs generalizing p with
  | nil => rfl
  | cons r rs ih =>
    rw [List.cons_append, answerAll, answerAll]
    split
    · exact ih _
    · exact ih _

/-- The formulas of the premise lines, in order. -/
def statedPremises (lines : List Line) : List Formula :=
  (lines.filter fun l => l.rule = .premise).map fun l => l.proposition

/-- A line that is added is a premise line exactly if its formula becomes a premise. -/
theorem premises_add_of_stated (p : Proof) (s : Step) (premises : List Formula)
    (h : p.premises = premises ++ statedPremises p.lines) :
    (p.add s).premises = premises ++ statedPremises (p.add s).lines := by
  have hlines : (p.add s).lines = p.lines ++ [p.nextLine s] := rfl
  have hpremises : (p.add s).premises = premisesWith p.premises s := rfl
  rw [hlines, hpremises, statedPremises, List.filter_append, List.map_append, ← List.append_assoc]
  unfold premisesWith
  split
  · next hrule =>
    have hlast : ([p.nextLine s].filter fun l => l.rule = .premise) = [p.nextLine s] := by
      simp [nextLine, hrule]
    rw [hlast, h]
    rfl
  · next hrule =>
    have hlast : ([p.nextLine s].filter fun l => l.rule = .premise) = [] := by
      simp [nextLine, hrule]
    rw [hlast, h, List.map_nil, List.append_nil]
    rfl

/-- **After any run of requests the books are right.** Numbers are places; the premises are those of
the start and those on the premise lines; the assumptions of a line, in increasing order, are the
assumption lines that a chain of citations leads to; and what fails changes nothing, whereas what
does not fail adds a line or sets the conclusion. Any line can be asked for. Commands with values as
arguments are such requests. -/
theorem books_after_requests (premises : List Formula) (conclusion : Option Formula)
    (requests : List Request) :
    let start : Proof := ⟨premises, conclusion, []⟩
    let p := start.answerAll requests
    (∀ i l, lineNumbered? p.lines i = some l →
      l.number = i ∧ l.assumptions.Pairwise (· < ·) ∧
        ∀ j, j ∈ l.assumptions ↔
          (∃ m, lineNumbered? p.lines j = some m ∧ m.rule = .assumption) ∧
            Relation.ReflTransGen (HandsOn p.lines) i j) ∧
      p.premises = premises ++ statedPremises p.lines ∧
      (∀ r e, p.answer r = .error e → start.answerAll (requests ++ [r]) = p) ∧
      (∀ r p', p.answer r = .ok p' → start.answerAll (requests ++ [r]) = p' ∧
        ((∃ s, p' = p.add s) ∨ ∃ f, p' = { p with conclusion := some f })) ∧
      (∀ s : Step, p.answer (.addLine (.inl s.proposition) (.inl s.rule) (.list s.citations)) =
        .ok (p.add s)) ∧
      ∀ commands, List.Forall₂ (fun c r => Command.request? c = some r) commands requests →
        start.performAll commands = p := by
  intro start p
  have hbuilt : p.Built :=
    answerAll_induction (fun s hp => hp.add s) (fun f hp => hp.conclude f)
      (.start premises conclusion) requests
  have hpremises : p.premises = premises ++ statedPremises p.lines :=
    answerAll_induction (P := fun p => p.premises = premises ++ statedPremises p.lines)
      (fun s hp => premises_add_of_stated _ s premises hp) (fun f hp => hp)
      (List.append_nil premises).symm requests
  refine ⟨?_, hpremises, ?_, ?_, answer_of_step p, ?_⟩
  · intro i l hl
    refine ⟨hbuilt.recorded.number_eq hl, hbuilt.recorded.pairwise_assumptions hl, ?_⟩
    intro j
    rw [hbuilt.recorded.mem_assumptions_iff hl, restsOn_iff_chain]
  · intro r e h
    rw [answerAll_append, answerAll, h]
    rfl
  · intro r p' h
    refine ⟨?_, answer_cases h⟩
    rw [answerAll_append, answerAll, h]
    rfl
  · intro commands hcommands
    exact performAll_eq_answerAll hcommands start

/-- A run in which a formula, a rule and a conclusion are refused, and then citations. The second
line cites the first one as truth, and also a line that is not there. -/
theorem books_after_refusals :
    let p : Formula := .atom ⟨'p', rfl⟩
    let q : Formula := .atom ⟨'q', rfl⟩
    let start : Proof := ⟨[q], some q, []⟩
    let commands : List Command :=
      [.addLine [.text "p", .text "Assumption"],
        .addLine [.int 1, .text "Assumption"],
        .addLine [.text "p", .text "Addition", .list [.bool true, .int 9]],
        .addLine [.text "p", .null],
        .addPremise (.text "p"),
        .conclude .null]
    let requests : List Request :=
      [.addLine (.inr (.text "p")) (.inr (.text "Assumption")) .null,
        .addLine (.inr (.int 1)) (.inr (.text "Assumption")) .null,
        .addLine (.inr (.text "p")) (.inr (.text "Addition")) (.list [.bool true, .int 9]),
        .addLine (.inr (.text "p")) (.inr .null) .null,
        .addPremise (.inr (.text "p")),
        .conclude (.inr .null)]
    let built : Proof := ((start.add ⟨p, .assumption, []⟩).add
      ⟨p, .addition, [.bool true, .int 9]⟩).add ⟨p, .premise, []⟩
    start.performAll commands = built ∧ built.premises = [q, p] ∧
      Relation.ReflTransGen (HandsOn built.lines) 2 1 ∧
      ¬ Relation.ReflTransGen (HandsOn built.lines) 3 1 ∧
      start.answerAll (requests ++ [.addLine (.inl q) (.inl .addition) (.int 1)]) = built ∧
      start.answerAll (requests ++ [.conclude (.inl p)]) = { built with conclusion := some p } := by
  intro p q start commands requests built
  have hread : Formula.parse "p" = .ok p :=
    Grammar.parseChars_of_admits ⟨by decide, .unit (.letter ⟨'p', rfl⟩), by decide⟩
  have hrun : start.answerAll requests = built := by
    simp only [requests, answerAll, answer, Formula.ofArgument, Formula.ofValue, hread]
    rfl
  have hbooks := books_after_requests [q] (some q) requests
  simp only at hbooks
  rw [hrun] at hbooks
  obtain ⟨hlines, hpremises, hfails, hanswers, -, hcommands⟩ := hbooks
  have hassumption : ∃ m, lineNumbered? built.lines 1 = some m ∧ m.rule = .assumption :=
    ⟨_, rfl, rfl⟩
  obtain ⟨-, -, hsecond⟩ := hlines 2 _ rfl
  obtain ⟨-, -, hthird⟩ := hlines 3 _ rfl
  refine ⟨?_, hpremises, ((hsecond 1).1 (List.mem_singleton_self 1)).2, ?_, ?_, ?_⟩
  · apply hcommands
    exact .cons rfl (.cons rfl (.cons rfl (.cons rfl (.cons rfl (.cons rfl .nil)))))
  · intro hchain
    cases (hthird 1).2 ⟨hassumption, hchain⟩
  · exact hfails _ _ rfl
  · exact (hanswers _ _ rfl).1

end Proof

end NaturalDeduction
