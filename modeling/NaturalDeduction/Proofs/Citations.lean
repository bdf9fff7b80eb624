import NaturalDeduction.Proofs.Parsing
import NaturalDeduction.Proofs.Stability

/-!
# Faults are bad citations

A line that is checked cites too few or too many lines and is not valid, or the first of its
citations that is not an earlier line is to blame, or its rule gives an answer (`Proof.Settled`).
There is no other outcome if the formulas of the lines have been read from texts and there is room
for as many calls as texts can be nested, and one: the rules answer whatever the formulas are, once
they have as many lines as they want (`Rule.exists_answers`), and texts that are nested too deep are
refused when they are read (`Proof.Written.nestedBelow`).

A citation that is to blame is named, unless it is a number that has too many digits to be written.
With such a citation on any line, wherever it stands, there is no evaluation of the proof at all,
although an evaluation should say something of every line (`Proof.no_evaluation_of_long_citation`).

Proofs whose lines come from texts are written (`Proof.Written`), and commands with texts lead from
written proofs to written proofs (`Proof.Written.performAll`).
-/

namespace NaturalDeduction.Proof

/-! ## Proofs from texts -/

/-- The proofs that are built as long as the formulas of their lines are read from texts. -/
inductive Written : Proof → Prop
  /-- No lines yet. -/
  | start (premises : List Formula) (conclusion : Option Formula) :
    Written ⟨premises, conclusion, []⟩
  /-- One more line, with a formula that was read and any rule and citations. -/
  | add {p : Proof} (hp : Written p) {s : Step} {text : String}
    (hread : Formula.parse text = .ok s.proposition) : Written (p.add s)
  /-- Another conclusion. -/
  | conclude {p : Proof} (hp : Written p) (f : Formula) : Written { p with conclusion := some f }

/-- Proofs from texts are built like others. -/
theorem Written.built {p : Proof} (hp : p.Written) : p.Built := by
  induction hp with
  | start premises conclusion => exact .start premises conclusion
  | add hp hread ih => exact ih.add _
  | conclude hp f ih => exact ih.conclude f

/-- No formula on a line is nested deeper than a text may be. -/
theorem Written.nestedBelow {p : Proof} (hp : p.Written) : p.NestedBelow 101 := by
  induction hp with
  | start premises conclusion =>
    intro l hl
    cases hl
  | @add p hp s text hread ih =>
    intro l hl
    rw [lines_add] at hl
    rcases List.mem_append.1 hl with hl | hl
    · exact ih l hl
    · cases List.mem_singleton.1 hl
      have hdepth : (s.proposition.depth : Int) ≤ 100 :=
        (Grammar.admits_of_parseChars hread).depth_le
      show s.proposition.depth < 101
      omega
  | conclude hp f ih => exact ih

/-- Commands that take texts lead from written proofs to written proofs. -/
theorem Written.performAll {p : Proof} (hp : p.Written) {cs : List Command}
    (hcs : ∀ c ∈ cs, c.takesText = true) : (p.performAll cs).Written := by
  refine performAll_induction ?_ hp
  intro c hc p p' l hp h
  have htext := hcs c hc
  rcases perform_cases (Command.builds_of_takesText htext) h with ⟨s, rfl, hread⟩ | ⟨f, rfl⟩
  · obtain ⟨text, hread⟩ := hread htext
    exact hp.add hread
  · exact hp.conclude f

/-! ## A single line -/

/-- A citation is right on line `number` if it is a whole number from one up to the line before.
Truth and falsity are the numbers one and zero. -/
def IsEarlier (number : Nat) (c : Value) : Prop :=
  ∃ n : Int, c.toInt? = some n ∧ 1 ≤ n ∧ n < number

/-- A citation is right if there is the earlier line that it means. -/
theorem isEarlier_iff {lines : List Line} {number : Nat} (hn : number ≤ lines.length + 1)
    {c : Value} : IsEarlier number c ↔ ∃ l, earlier? lines number c = some l := by
  unfold earlier?
  constructor
  · rintro ⟨n, hc, hrange⟩
    refine ⟨lines.get ⟨n.toNat - 1, by omega⟩, ?_⟩
    rw [hc]
    dsimp only
    rw [if_pos hrange]
    exact List.getElem?_eq_getElem _
  · rintro ⟨l, hl⟩
    split at hl
    · next n hc =>
      split at hl
      · next hrange => exact ⟨n, hc, hrange⟩
      · cases hl
    · cases hl

/-- The outcomes of checking a step as line `number`, each with what it comes from. -/
inductive Settled (room : Nat) (lines : List Line) (number : Nat) (s : Step) :
    Except CheckFault Bool → Prop
  /-- There are too few citations or too many. -/
  | miscounted (hcount : s.citations.length ≠ s.rule.citedCount) :
    Settled room lines number s (.ok false)
  /-- A citation is not an earlier line, and those before it are. It is named if it can be written.
  -/
  | misdirected (hcount : s.citations.length = s.rule.citedCount) {before after : List Value}
    {c : Value} (hcitations : s.citations = before ++ c :: after)
    (hbefore : ∀ b ∈ before, IsEarlier number b) (hc : ¬ IsEarlier number c) :
    Settled room lines number s (.error (CheckFault.badCitation (.int number) c).told)
  /-- All citations are earlier lines, and the rule gives an answer for these. -/
  | answered (hcount : s.citations.length = s.rule.citedCount) {cited : List Line} {valid : Bool}
    (hcited : List.Forall₂ (fun c l => IsEarlier number c ∧ earlier? lines number c = some l)
      s.citations cited)
    (hrule : s.rule.check room s.proposition (cited.map Line.toSource) = .ok valid) :
    Settled room lines number s (.ok valid)

/-- **Steps after lines that are not nested too deep are settled.** -/
theorem settled_check {room : Nat} {lines : List Line} {number : Nat}
    (hn : number ≤ lines.length + 1) (hdepth : ∀ l ∈ lines, l.proposition.depth < room) (s : Step) :
    Settled room lines number s (check room lines (.int number) s) := by
  cases checks hn s with
  | miscounted hcount hcheck =>
    rw [hcheck]
    exact .miscounted hcount
  | @misdirected hcount before after c hcitations hbefore hc hcheck =>
    rw [hcheck]
    refine .misdirected hcount hcitations ?_ ?_
    · intro b hb
      exact (isEarlier_iff hn).2 (hbefore b hb)
    · rw [isEarlier_iff hn, hc]
      rintro ⟨l, hl⟩
      cases hl
  | @answered hcount cited hcited hasRoom answer hanswers hcheck =>
    have hroom : hasRoom room = true := by
      refine hanswers.enough fun a ha => ?_
      obtain ⟨l, hl, rfl⟩ := List.mem_map.1 ha
      exact hdepth l (mem_of_forall₂_earlier? hcited l hl)
    rw [hcheck, if_pos hroom]
    refine .answered hcount (hcited.imp ?_) ?_
    · intro c l hl
      exact ⟨(isEarlier_iff hn).2 ⟨l, hl⟩, hl⟩
    · rw [hanswers.check_eq, hroom]
      rfl

/-- A step that is settled with a fault has the right number of citations and a bad one among them.
-/
theorem Settled.error_iff {room : Nat} {lines : List Line} {number : Nat} {s : Step}
    {outcome : Except CheckFault Bool} (h : Settled room lines number s outcome) :
    (∃ fault, outcome = .error fault) ↔
      s.citations.length = s.rule.citedCount ∧ ∃ c ∈ s.citations, ¬ IsEarlier number c := by
  cases h with
  | miscounted hcount =>
    constructor
    · rintro ⟨fault, heq⟩
      cases heq
    · rintro ⟨heq, -⟩
      exact absurd heq hcount
  | @misdirected hcount before after c hcitations hbefore hc =>
    constructor
    · intro _
      refine ⟨hcount, c, ?_, hc⟩
      rw [hcitations]
      exact List.mem_append_right _ List.mem_cons_self
    · intro _
      exact ⟨_, rfl⟩
  | @answered hcount cited valid hcited hrule =>
    constructor
    · rintro ⟨fault, heq⟩
      cases heq
    · rintro ⟨-, c, hmem, hc⟩
      exact absurd (((List.forall₂_and_left _ _).1 hcited).1 c hmem) hc

/-! ## Lines, drafts and the whole proof -/

/-- The number under which a draft is checked. It is the one after the last line, or a number that
was given for it and is no greater. -/
def Proposes (p : Proof) (d : Draft) (number : Nat) : Prop :=
  d.number = .null ∧ number = p.lines.length + 1 ∨
    d.number = .int number ∧ number ≤ p.lines.length + 1

/-- A draft is checked under that number. -/
theorem checkDraft_eq {p : Proof} {d : Draft} {number : Nat} (h : p.Proposes d number)
    (room : Nat) :
    number ≤ p.lines.length + 1 ∧
      p.checkDraft room d = check room p.lines (.int number) d.toStep := by
  rw [checkDraft]
  rcases h with ⟨hd, rfl⟩ | ⟨hd, hle⟩
  · rw [hd]
    exact ⟨Nat.le_refl _, rfl⟩
  · rw [hd]
    exact ⟨hle, rfl⟩

/-- A line of a written proof is settled. -/
theorem Written.settled_line {p : Proof} (hp : p.Written) {room : Nat} (hroom : 100 < room)
    {l : Line} (hl : l ∈ p.lines) : Settled room p.lines l.number l.toStep (p.checkLine room l) := by
  obtain ⟨i, hi⟩ := List.mem_iff_getElem?.1 hl
  have hlt := (List.getElem?_eq_some_iff.1 hi).1
  have hnumber := hp.built.recorded.number_of_getElem? hi
  rw [checkLine, if_pos (hp.built.isReadable l hl)]
  exact settled_check (by omega) (hp.nestedBelow.mono hroom) l.toStep

/-- The fault of an outcome is the one that it failed with. -/
theorem faultOf?_eq_some_iff {outcome : Except CheckFault Bool} {fault : CheckFault} :
    faultOf? outcome = some fault ↔ outcome = .error fault := by
  cases outcome with
  | error e => simp [faultOf?]
  | ok valid => simp [faultOf?]

/-- The lines with a fault are those that could not be checked. -/
theorem Written.mem_faults_iff {p : Proof} (hp : p.Written) (room : Nat) (level : Value) (n : Nat) :
    n ∈ (p.evaluate room level).faultsByNumber.map Prod.fst ↔
      ∃ l ∈ p.lines, l.number = n ∧ ∃ fault, p.checkLine room l = .error fault := by
  rw [faultsByNumber_evaluate hp.built.recorded.pairwise_number, List.mem_map]
  constructor
  · rintro ⟨entry, hentry, rfl⟩
    obtain ⟨l, hl, hfault⟩ := List.mem_filterMap.1 hentry
    obtain ⟨fault, houtcome, -⟩ := Option.map_eq_some_iff.1 hfault
    exact ⟨l, hl, (number_of_numberedFault? hfault).symm, fault, faultOf?_eq_some_iff.1 houtcome⟩
  · rintro ⟨l, hl, rfl, fault, houtcome⟩
    refine ⟨(l.number, fault), List.mem_filterMap.2 ⟨l, hl, ?_⟩, rfl⟩
    rw [numberedFault?, houtcome]
    rfl

/-- A line that could not be checked is not valid. -/
theorem mem_invalid_of_error {room : Nat} {p : Proof} {l : Line} (hl : l ∈ p.lines)
    {fault : CheckFault} (h : p.checkLine room l = .error fault) (level : Value) :
    l.number ∈ (p.evaluate room level).invalid := by
  rw [invalid_evaluate, List.mem_filterMap]
  refine ⟨l, hl, ?_⟩
  rw [invalidNumber?, h]
  rfl

/-- **Faults are bad citations.** After any run of commands that take formulas as texts, and with
room for more calls than texts can be nested, every line is settled, and so is every draft for the
next line or for an earlier one, whatever it says and cites. A bad citation that can be written is
named in the text of its fault. If all lines can be written out, the proof is evaluated, and the
lines with a fault are those that have the right number of citations and a bad one among them; none
of them is valid. If there is a line that cannot be, there is no evaluation, and what is told is
that a number is too long. -/
theorem faults_are_bad_citations (premises : List Formula) (conclusion : Option Formula)
    {commands : List Command} (hcommands : ∀ c ∈ commands, c.takesText = true) {room : Nat}
    (hroom : 100 < room) :
    let p := (⟨premises, conclusion, []⟩ : Proof).performAll commands
    (∀ l ∈ p.lines, Settled room p.lines l.number l.toStep (p.checkLine room l)) ∧
      (∀ d number, p.Proposes d number →
        Settled room p.lines number d.toStep (p.checkDraft room d)) ∧
      (∀ (number : Nat) (c : Value), (Value.int number).isWritable = true → c.isWritable = true →
        (CheckFault.badCitation (.int number) c).told.message? =
          some ("line " ++ toString number ++ " cites " ++ c.literal ++
            ", which is not an earlier line")) ∧
      (p.IsWritable → ∃ e log, p.evaluateWith room [] = .ok (e, log) ∧
        (∀ n, n ∈ e.faultsByNumber.map Prod.fst ↔
          ∃ l ∈ p.lines, l.number = n ∧ l.citations.length = l.rule.citedCount ∧
            ∃ c ∈ l.citations, ¬ IsEarlier n c) ∧
        ∀ n ∈ e.faultsByNumber.map Prod.fst, n ∈ e.invalid) ∧
      (¬ p.IsWritable →
        ∃ e, p.evaluateWith room [] = .error e ∧ e.message? = some digitLimitMessage) := by
  intro p
  have hp : p.Written := (Written.start premises conclusion).performAll hcommands
  refine ⟨fun l hl => hp.settled_line hroom hl, ?_, ?_, fun hwritable => ?_, fun hwritable =>
    hp.built.exists_error_of_not_isWritable hwritable room⟩
  · intro d number hd
    obtain ⟨hle, heq⟩ := checkDraft_eq hd room
    rw [heq]
    exact settled_check hle (hp.nestedBelow.mono hroom) d.toStep
  · intro number c hnumber hc
    rw [CheckFault.told_badCitation hnumber hc]
    rfl
  · refine ⟨_, _, hp.built.evaluateWith_nil hwritable room, ?_, ?_⟩
    · intro n
      rw [hp.mem_faults_iff]
      constructor
      · rintro ⟨l, hl, rfl, hfault⟩
        exact ⟨l, hl, rfl, (hp.settled_line hroom hl).error_iff.1 hfault⟩
      · rintro ⟨l, hl, rfl, hbad⟩
        exact ⟨l, hl, rfl, (hp.settled_line hroom hl).error_iff.2 hbad⟩
    · intro n hn
      obtain ⟨l, hl, rfl, fault, hfault⟩ := (hp.mem_faults_iff room _ n).1 hn
      exact mem_invalid_of_error hl hfault _

/-- A bad citation on a line with too many citations is no fault. One after truth, which is the
number of the first line, is a fault, and so is the number of the third line in a draft for that
line. -/
theorem faults_of_miscounted_and_misdirected :
    let p : Formula := .atom ⟨'p', rfl⟩
    let commands : List Command :=
      [.addPremise (.text "p"),
        .addLine [.text "p", .text "Addition", .list [.int 1, .int 7]],
        .addLine [.text "p", .text "Conjunction", .list [.bool true, .text "2"]],
        .addLine [.text "p", .text "Associativity", .list [.int 1]]]
    let built : Proof := (((empty.add ⟨p, .premise, []⟩).add ⟨p, .addition, [.int 1, .int 7]⟩).add
      ⟨p, .conjunction, [.bool true, .text "2"]⟩).add ⟨p, .associativity, [.int 1]⟩
    let d : Draft := ⟨⟨p, .doubleNegation, [.int 3]⟩, none, .int 3⟩
    (∀ c ∈ commands, c.takesText = true) ∧ empty.performAll commands = built ∧ built.IsWritable ∧
      Settled 101 built.lines 3 ⟨p, .conjunction, [.bool true, .text "2"]⟩
        (.error (.badCitation (.int 3) (.text "2"))) ∧
      Settled 101 built.lines 3 d.toStep (.error (.badCitation (.int 3) (.int 3))) ∧
      ∃ e log, built.evaluateWith 101 [] = .ok (e, log) ∧
        e.faultsByNumber.map Prod.fst = [3] ∧ 3 ∈ e.invalid := by
  intro p commands built d
  have hread : Formula.parse "p" = .ok p :=
    Grammar.parseChars_of_admits ⟨by decide, .unit (.letter ⟨'p', rfl⟩), by decide⟩
  have hrun : empty.performAll commands = built := by
    simp only [commands, performAll, perform, stepOf, Formula.ofValue, hread]
    rfl
  have htexts : ∀ c ∈ commands, c.takesText = true := List.all_eq_true.1 rfl
  have hfaults := faults_are_bad_citations [] none htexts (Nat.lt_succ_self 100)
  have hstart : (⟨[], none, []⟩ : Proof).performAll commands = built := hrun
  simp only [hstart] at hfaults
  obtain ⟨hlines, hdrafts, -, hevaluates, -⟩ := hfaults
  have hbuilt : built.Built := ((((Built.start [] none).add _).add _).add _).add _
  have hcitations : ∀ c ∈ ([.int 1, .int 7, .bool true, .text "2", .int 1] : List Value),
      c.isWritable = true := by
    simp (disch := decide) [Value.isWritable_of_natAbs_le]
  have hwritable : built.IsWritable :=
    hbuilt.recorded.isWritable (Nat.le_of_ble_eq_true rfl) hcitations
  obtain ⟨e, log, heval, -, hinvalid⟩ := hevaluates hwritable
  have hkeys : e.faultsByNumber.map Prod.fst = [3] := by
    rw [hbuilt.evaluateWith_nil hwritable] at heval
    cases heval
    rfl
  have hthree : (Value.int (3 : Nat)).isWritable = true := Value.isWritable_of_natAbs_le (by decide)
  have hthird : built.lines[2]? = some (((empty.add ⟨p, .premise, []⟩).add
      ⟨p, .addition, [.int 1, .int 7]⟩).nextLine ⟨p, .conjunction, [.bool true, .text "2"]⟩) := rfl
  have hline : Settled 101 built.lines 3 ⟨p, .conjunction, [.bool true, .text "2"]⟩
      (.error (CheckFault.badCitation (.int (3 : Nat)) (.text "2")).told) :=
    hlines _ (List.mem_of_getElem? hthird)
  have hdraft : Settled 101 built.lines 3 d.toStep
      (.error (CheckFault.badCitation (.int (3 : Nat)) (.int (3 : Nat))).told) :=
    hdrafts d 3 (.inr ⟨rfl, Nat.le_add_left 3 2⟩)
  rw [CheckFault.told_badCitation hthree (Value.isWritable_text "2")] at hline
  rw [CheckFault.told_badCitation hthree hthree] at hdraft
  refine ⟨htexts, hrun, hwritable, hline, hdraft, e, log, heval, hkeys, hinvalid 3 ?_⟩
  rw [hkeys]
  exact List.mem_singleton_self 3

/-- **What an evaluation misses.** In a proof from texts, the citation of the second line is no
earlier line but a number with too many digits. The line cannot be told so, and neither is there an
evaluation of the proof that says of the first line that it is valid. -/
theorem no_evaluation_of_long_citation :
    let p : Formula := .atom ⟨'p', rfl⟩
    let long : Value := .int (Value.leastAbove Value.digitLimit)
    let commands : List Command :=
      [.addPremise (.text "p"), .addLine [.text "p", .text "Addition", .list [long]]]
    let built : Proof := (empty.add ⟨p, .premise, []⟩).add ⟨p, .addition, [long]⟩
    (∀ c ∈ commands, c.takesText = true) ∧ empty.performAll commands = built ∧
      (∀ room, built.lines.map (built.checkLine room) = [.ok true, .error .untold]) ∧
      ∀ room, ∃ e, built.evaluateWith room [] = .error e ∧ e.message? = some digitLimitMessage := by
  intro p long commands built
  have hread : Formula.parse "p" = .ok p :=
    Grammar.parseChars_of_admits ⟨by decide, .unit (.letter ⟨'p', rfl⟩), by decide⟩
  have hrun : empty.performAll commands = built := by
    simp only [commands, performAll, perform, stepOf, Formula.ofValue, hread]
    rfl
  have hbuilt : built.Built := ((Built.start [] none).add _).add _
  have hlong : long.isWritable = false := Value.isWritable_leastAbove
  have hunwritable : ¬ built.IsWritable :=
    not_isWritable_of_citation (List.mem_append_right [_] List.mem_cons_self)
      List.mem_cons_self hlong
  refine ⟨List.all_eq_true.1 rfl, hrun, fun room => ?_,
    hbuilt.exists_error_of_not_isWritable hunwritable⟩
  have hearlier : earlier? built.lines 2 long = none := by
    have hgreat := Value.lt_leastAbove Value.digitLimit
    have hrange : ¬ (1 ≤ (Value.leastAbove Value.digitLimit : Int) ∧
        (Value.leastAbove Value.digitLimit : Int) < (2 : Nat)) := by
      rw [Value.digitLimit] at hgreat ⊢
      omega
    exact if_neg hrange
  have htold : (CheckFault.badCitation (.int (2 : Nat)) long).told = .untold :=
    CheckFault.told_eq_untold (List.mem_cons_of_mem _ List.mem_cons_self) hlong
  have hcited : citedLine built.lines (.int (2 : Nat)) long = .error .untold := by
    rw [citedLine_eq (Nat.le_succ 2), hearlier, Option.elim_none, htold]
  have hsecond : check room built.lines (.int (2 : Nat)) ⟨p, .addition, [long]⟩ =
      .error .untold := by
    have hcount : ¬ [long].length ≠ Rule.addition.citedCount := not_not.2 rfl
    rw [check, if_neg hcount, List.mapM_cons, hcited]
    rfl
  exact congrArg (fun outcome => [.ok true, outcome]) hsecond

end NaturalDeduction.Proof
