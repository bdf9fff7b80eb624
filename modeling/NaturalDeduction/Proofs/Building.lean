import NaturalDeduction.Proof.Dependence
import NaturalDeduction.Proofs.Outcome

/-!
# Proofs as they are built

Proofs are built by adding lines at the end and by setting the conclusion (`Proof.Built`). This is
all that the commands do that change no line (`Proof.perform_cases`, `Proof.Built.performAll`), and
all that happens when a proof is made from triples (`Proof.built_ofTriples`). Formulas and rules may
be any, and so may citations.

What is recorded with a line stays true of it in the finished proof (`Proof.Built.recorded`): its
number is its place, its assumptions are those that the earlier lines give it, and if it is a
premise line, its formula is a premise. The reason is that lines cite backwards, so a citation means
the same after more lines have been added (`Proof.earlier?_append`).
-/

namespace NaturalDeduction.Proof

/-! ## Places of lines -/

/-- A line keeps its number when more lines are added. -/
theorem lineNumbered?_append_left {lines : List Line} {i : Nat} (hi : i ≤ lines.length)
    (more : List Line) : lineNumbered? (lines ++ more) i = lineNumbered? lines i := by
  cases i with
  | zero => rfl
  | succ i => exact List.getElem?_append_left hi

/-- The lines after one has been added. -/
theorem lineNumbered?_add {lines : List Line} {i : Nat} {l m : Line}
    (h : lineNumbered? (lines ++ [m]) i = some l) :
    (i ≤ lines.length ∧ lineNumbered? lines i = some l) ∨ (i = lines.length + 1 ∧ l = m) := by
  cases i with
  | zero => cases h
  | succ i =>
    rw [lineNumbered?, List.getElem?_append] at h
    split at h
    · next hi => exact .inl ⟨hi, h⟩
    · next hi =>
      obtain ⟨hlast, rfl⟩ := List.getElem?_eq_some_iff.1 h
      have : i - lines.length < 1 := hlast
      have hzero : i = lines.length := by omega
      subst hzero
      simp

/-- A line under a number is one of the lines. -/
theorem mem_of_lineNumbered? {lines : List Line} {i : Nat} {l : Line}
    (h : lineNumbered? lines i = some l) : l ∈ lines := by
  cases i with
  | zero => cases h
  | succ i => exact List.mem_of_getElem? h

/-- The last line has the greatest number. -/
theorem lineNumbered?_length {lines : List Line} {l : Line} (h : lines.getLast? = some l) :
    lineNumbered? lines lines.length = some l := by
  rw [List.getLast?_eq_getElem?] at h
  cases lines with
  | nil => cases h
  | cons m lines => exact h

/-! ## Citations -/

/-- The earlier line that a citation means is the one with the number that is cited. -/
theorem earlier?_eq_some_iff {lines : List Line} {number : Nat} {c : Value} {l : Line} :
    earlier? lines number c = some l ↔
      ∃ j : Nat, c.toInt? = some (j : Int) ∧ 1 ≤ j ∧ j < number ∧
        lineNumbered? lines j = some l := by
  unfold earlier?
  constructor
  · intro h
    split at h
    · next c heq =>
      split at h
      · next hc =>
        obtain ⟨hone, hlt⟩ := hc
        obtain ⟨j, rfl⟩ := Int.eq_ofNat_of_zero_le (show 0 ≤ c by omega)
        refine ⟨j, heq, by omega, by omega, ?_⟩
        obtain ⟨i, rfl⟩ := Nat.exists_eq_add_one_of_ne_zero (show j ≠ 0 by omega)
        exact h
      · cases h
    · cases h
  · rintro ⟨j, heq, hone, hlt, hl⟩
    obtain ⟨i, rfl⟩ := Nat.exists_eq_add_one_of_ne_zero (show j ≠ 0 by omega)
    have hrange : 1 ≤ ((i + 1 : Nat) : Int) ∧ ((i + 1 : Nat) : Int) < number := by omega
    simp only [heq]
    rw [if_pos hrange]
    exact hl

/-- A citation means the same line after more lines have been added. -/
theorem earlier?_append {lines : List Line} {number : Nat} (hn : number ≤ lines.length + 1)
    (more : List Line) (c : Value) :
    earlier? (lines ++ more) number c = earlier? lines number c := by
  ext l
  simp only [earlier?_eq_some_iff]
  refine exists_congr fun j => and_congr_right fun _ => and_congr_right fun _ =>
    and_congr_right fun hlt => ?_
  rw [lineNumbered?_append_left (by omega)]

/-- The assumptions of cited lines do not depend on later lines. -/
theorem citedAssumptions_append {lines : List Line} {number : Nat}
    (hn : number ≤ lines.length + 1) (more : List Line) (cs : List Value) :
    citedAssumptions (lines ++ more) number cs = citedAssumptions lines number cs := by
  induction cs with
  | nil => rfl
  | cons c cs ih => simp only [citedAssumptions, earlier?_append hn, ih]

/-- What a step rests on does not depend on later lines. -/
theorem assumptionsOf_append {lines : List Line} {number : Nat} (hn : number ≤ lines.length + 1)
    (more : List Line) (s : Step) :
    assumptionsOf (lines ++ more) number s = assumptionsOf lines number s := by
  simp only [assumptionsOf, citedAssumptions_append hn]

/-- The assumptions that citations bring in are those of the lines they mean. -/
theorem mem_citedAssumptions {lines : List Line} {number k : Nat} {cs : List Value} :
    k ∈ citedAssumptions lines number cs ↔
      ∃ c ∈ cs, ∃ l, earlier? lines number c = some l ∧ k ∈ l.assumptions := by
  induction cs with
  | nil => simp [citedAssumptions]
  | cons c cs ih =>
    rw [citedAssumptions]
    split
    · next l hl =>
      rw [mem_unionNumbers, ih]
      simp [hl]
    · next hnone =>
      rw [ih]
      simp [hnone]

/-! ## Building -/

/-- The proofs that are built from premises, perhaps with a conclusion, by adding lines and setting
the conclusion. -/
inductive Built : Proof → Prop
  /-- No lines yet. -/
  | start (premises : List Formula) (conclusion : Option Formula) : Built ⟨premises, conclusion, []⟩
  /-- One more line, whatever it says and cites. -/
  | add {p : Proof} (hp : Built p) (s : Step) : Built (p.add s)
  /-- Another conclusion. -/
  | conclude {p : Proof} (hp : Built p) (f : Formula) : Built { p with conclusion := some f }

/-- Whether a command leaves the lines as they are that a proof has already. -/
def Command.builds : Command → Bool
  | .addAgain _ => false
  | .change _ _ _ => false
  | _ => true

/-- Whether a command leaves these lines as they are and takes formulas as texts. -/
def Command.takesText : Command → Bool
  | .addNegations _ _ _ _ => false
  | c => c.builds

/-- A command that takes texts builds. -/
theorem Command.builds_of_takesText {c : Command} (h : c.takesText = true) : c.builds = true := by
  cases c with
  | addNegations n name rule citations => cases h
  | _ => exact h

/-- A value that is taken as a formula is a text that has been read. -/
theorem exists_text_of_ofValue {v : Value} {f : Formula} (h : Formula.ofValue v = .ok f) :
    ∃ text, Formula.parse text = .ok f := by
  unfold Formula.ofValue at h
  split at h
  · next text =>
    refine ⟨text, ?_⟩
    cases hread : Formula.parse text with
    | error e =>
      rw [hread] at h
      cases h
    | ok g =>
      rw [hread] at h
      cases h
      rfl
  · cases h

/-- The formula of a step that was made from a text has been read from it. -/
theorem exists_text_of_stepOf {v citations : Value} {rule : Except Error Rule} {s : Step}
    (h : stepOf (Formula.ofValue v) rule citations = .ok s) :
    ∃ text, Formula.parse text = .ok s.proposition := by
  obtain ⟨cited, -, h⟩ := exists_ok_of_bind h
  obtain ⟨f, hf, h⟩ := exists_ok_of_bind h
  obtain ⟨r, -, h⟩ := exists_ok_of_bind h
  cases h
  exact exists_text_of_ofValue hf

/-- Setting a conclusion changes nothing else. -/
theorem exists_conclusion_of_conclude {p p' : Proof} {v : Value} (h : p.conclude v = .ok p') :
    ∃ f, p' = { p with conclusion := some f } := by
  unfold Proof.conclude at h
  split at h
  · next f hf =>
    cases h
    exact ⟨f, rfl⟩
  · cases h

/-- **What a command can do that builds**: it adds a line, the formula of which was read if the
command takes texts, or it sets the conclusion. -/
theorem perform_cases {p p' : Proof} {c : Command} (hc : c.builds = true) {l : Option Line}
    (h : p.perform c = .ok (p', l)) :
    (∃ s, p' = p.add s ∧
      (c.takesText = true → ∃ text, Formula.parse text = .ok s.proposition)) ∨
      ∃ f, p' = { p with conclusion := some f } := by
  cases c with
  | addLine args =>
    simp only [Proof.perform] at h
    split at h
    · split at h
      · cases h
      · obtain ⟨s, hs, h⟩ := exists_ok_of_bind h
        cases h
        exact .inl ⟨s, rfl, fun _ => exists_text_of_stepOf hs⟩
    · cases h
  | addPremise v =>
    obtain ⟨s, hs, h⟩ := exists_ok_of_bind h
    cases h
    exact .inl ⟨s, rfl, fun _ => exists_text_of_stepOf hs⟩
  | addNegations n name rule citations =>
    obtain ⟨f, hf, h⟩ := exists_ok_of_bind h
    split at h
    · obtain ⟨s, hs, h⟩ := exists_ok_of_bind h
      cases h
      refine .inl ⟨s, rfl, ?_⟩
      intro htext
      cases htext
    · cases h
  | conclude v =>
    obtain ⟨q, hq, h⟩ := exists_ok_of_bind h
    cases h
    exact .inr (exists_conclusion_of_conclude hq)
  | addAgain index => cases hc
  | change index rule citations => cases hc

/-- What each command keeps, a run keeps, since commands that fail change nothing. -/
theorem performAll_induction {P : Proof → Prop} {cs : List Command}
    (hstep : ∀ c ∈ cs, ∀ {p p' : Proof} {l : Option Line}, P p → p.perform c = .ok (p', l) → P p')
    {p : Proof} (hp : P p) : P (p.performAll cs) := by
  induction cs generalizing p with
  | nil => exact hp
  | cons c cs ih =>
    rw [List.forall_mem_cons] at hstep
    rw [Proof.performAll]
    split
    · next p' l h => exact ih hstep.2 (hstep.1 hp h)
    · exact ih hstep.2 hp

/-- A proof that is built stays so with another conclusion. -/
theorem Built.conclude_value {p p' : Proof} (hp : p.Built) {v : Value}
    (h : p.conclude v = .ok p') : p'.Built := by
  obtain ⟨f, rfl⟩ := exists_conclusion_of_conclude h
  exact hp.conclude f

/-- A new proof is built, as it has no lines. -/
theorem built_create {p : Proof} {premises conclusion : Value}
    (h : create premises conclusion = .ok p) : p.Built := by
  unfold create at h
  split at h
  · next items hitems =>
    obtain ⟨fs, hfs, h⟩ := exists_ok_of_bind h
    split at h
    · cases h
      exact .start fs none
    · exact (Built.start fs none).conclude_value h
  · cases h

/-- A step of building. -/
theorem Built.perform {p p' : Proof} (hp : p.Built) {c : Command} (hc : c.builds = true)
    {l : Option Line} (h : p.perform c = .ok (p', l)) : p'.Built := by
  rcases perform_cases hc h with ⟨s, rfl, -⟩ | ⟨f, rfl⟩
  · exact hp.add s
  · exact hp.conclude f

/-- A run of commands that build, some of which may fail. -/
theorem Built.performAll {p : Proof} (hp : p.Built) {cs : List Command}
    (hcs : ∀ c ∈ cs, c.builds = true) : (p.performAll cs).Built := by
  refine performAll_induction ?_ hp
  intro c hc p p' l hp h
  exact hp.perform (hcs c hc) h

/-- A proof that is built stays so with a line from a triple. -/
theorem Built.addTriple {p p' : Proof} (hp : p.Built) {triple : Value}
    (h : p.addTriple triple = .ok p') : p'.Built := by
  unfold Proof.addTriple at h
  split at h
  · cases h
  · obtain ⟨⟨q, l⟩, hq, h⟩ := exists_ok_of_bind h
    cases h
    exact hp.perform rfl hq
  · cases h

/-- Proofs from triples are built line by line. -/
theorem built_ofTriples {triples : List Value} {conclusion : Value} {p : Proof}
    (h : ofTriples triples conclusion = .ok p) : p.Built := by
  obtain ⟨q, hq, h⟩ := exists_ok_of_bind h
  have hbuilt : q.Built :=
    invariant_of_foldlM (fun hb hstep => hb.addTriple hstep) (.start [] none) hq
  split at h
  · cases h
    rcases hlast : q.lines.getLast? with _ | l
    · have hnone : q.lines = [] := List.getLast?_eq_none_iff.1 hlast
      rw [hnone]
      exact .start q.premises none
    · exact hbuilt.conclude l.proposition
  · exact hbuilt.conclude_value h

/-! ## Records -/

/-- What is recorded with the lines is right. -/
structure Recorded (p : Proof) : Prop where
  /-- Numbers are places. -/
  number_eq : ∀ {i l}, lineNumbered? p.lines i = some l → l.number = i
  /-- Assumptions are those that the step has at its place. -/
  assumptions_eq : ∀ {i l}, lineNumbered? p.lines i = some l →
    l.assumptions = assumptionsOf p.lines i l.toStep
  /-- Premise lines state premises. -/
  premise_mem : ∀ {l}, l ∈ p.lines → l.rule = .premise → l.proposition ∈ p.premises

/-- An assumption rests on itself alone. -/
theorem Recorded.assumptions_of_assumption {p : Proof} (hp : p.Recorded) {i : Nat} {l : Line}
    (hl : lineNumbered? p.lines i = some l) (hr : l.rule = .assumption) : l.assumptions = [i] := by
  rw [hp.assumptions_eq hl, assumptionsOf, if_pos hr]

/-- A line that rests on what it cites rests on the assumptions of the cited lines. -/
theorem Recorded.assumptions_of_restsOnCitations {p : Proof} (hp : p.Recorded) {i : Nat} {l : Line}
    (hl : lineNumbered? p.lines i = some l) (hr : l.rule.restsOnCitations = true) :
    l.assumptions = citedAssumptions p.lines i l.citations := by
  rw [Rule.restsOnCitations, Bool.and_eq_true, bne_iff_ne, Bool.not_eq_true'] at hr
  obtain ⟨hassumption, hnothing⟩ := hr
  rw [hp.assumptions_eq hl, assumptionsOf, if_neg hassumption, if_neg (by simp [hnothing])]

/-- A step takes no premise away. -/
theorem mem_premisesWith {premises : List Formula} {f : Formula} (h : f ∈ premises) (s : Step) :
    f ∈ premisesWith premises s := by
  unfold premisesWith
  split
  · exact List.mem_append_left _ h
  · exact h

/-- One more line is recorded as the lines before it are. -/
theorem Recorded.add {p : Proof} (hp : p.Recorded) (s : Step) : (p.add s).Recorded where
  number_eq := by
    intro i l hl
    rcases lineNumbered?_add hl with ⟨-, hl⟩ | ⟨rfl, rfl⟩
    · exact hp.number_eq hl
    · rfl
  assumptions_eq := by
    intro i l hl
    rcases lineNumbered?_add hl with ⟨hi, hl⟩ | ⟨rfl, rfl⟩
    · rw [hp.assumptions_eq hl]
      exact (assumptionsOf_append (by omega) _ _).symm
    · exact (assumptionsOf_append (Nat.le_refl _) _ _).symm
  premise_mem := by
    intro l hl hrule
    rcases List.mem_append.1 hl with hl | hl
    · exact mem_premisesWith (hp.premise_mem hl hrule) s
    · cases List.mem_singleton.1 hl
      have hpremise : s.rule = .premise := hrule
      show s.proposition ∈ premisesWith p.premises s
      rw [premisesWith, if_pos hpremise]
      exact List.mem_append_right _ (List.mem_singleton_self _)

/-- **What is recorded stays right** while a proof is built. -/
theorem Built.recorded {p : Proof} (hp : p.Built) : p.Recorded := by
  induction hp with
  | start premises conclusion =>
    refine ⟨?_, ?_, ?_⟩
    · intro i l hl
      cases mem_of_lineNumbered? hl
    · intro i l hl
      cases mem_of_lineNumbered? hl
    · intro l hl
      cases hl
  | add hp s ih => exact ih.add s
  | conclude hp f ih => exact ⟨ih.number_eq, ih.assumptions_eq, ih.premise_mem⟩

end NaturalDeduction.Proof
