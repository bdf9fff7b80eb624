import NaturalDeduction.Proofs.Discharge
import NaturalDeduction.Proofs.Entailment
import NaturalDeduction.Proofs.Reading
import NaturalDeduction.Proofs.RoundTrip

/-!
# Soundness

In a proof without quantifiers whose lines are all valid, a line is true wherever the premises and
the assumptions it depends on are true (`Reading.supports_of_valid`). One line is a matter of its
rule (`Reading.supports_step`); the proof is then gone through from the first line on.

A full score says that the last line rests on nothing according to the numbers recorded with it.
There are two ways from there. If assumptions are discharged one at a time, the last line depends on
nothing and the premises entail the conclusion (`Proof.isSemanticallyValid_of_dischargesSingly`).
Without this condition they need not (`Proof.full_score_not_valid`), since conditional and indirect
proof record nothing also where they close one assumption of several. What follows in general is
that the premises, together with the assumptions that the last line depends on, entail the
conclusion (`Proof.conclusion_of_premises_and_assumptions`).
-/

namespace NaturalDeduction

/-! ## Truth under an assignment -/

/-- The truth value does not depend on how letters are grouped into terms. -/
theorem Formula.truth_cutTerms (v : String → Bool) (f : Formula) :
    f.cutTerms.truth v = f.truth v := by
  induction f with
  | atom a => rfl
  | predicate P t ts =>
    have h := chars_cutTerms .tight (predicate P t ts)
    simp only [cutTerms, truth, canonical] at h ⊢
    rw [h]
  | not f ih => simp only [cutTerms, truth, ih]
  | binary op l r ihl ihr => simp only [cutTerms, truth, ihl, ihr]
  | quantified q x f ih =>
    have h := chars_cutTerms .tight (quantified q x f)
    simp only [cutTerms, truth, canonical] at h ⊢
    rw [h]

namespace Reading

/-- Truth under an assignment of truth values to atomic formulas. -/
def ofAssignment (v : String → Bool) : Reading where
  Holds f := f.truth v = true
  not_iff f := by simp [Formula.truth]
  binary_iff op l r := by
    cases op with
    | or => simp [Formula.truth, Connective.apply, Connective.Says]
    | and => simp [Formula.truth, Connective.apply, Connective.Says]
    | implies =>
      simp only [Formula.truth, Connective.apply, Connective.Says]
      cases l.truth v <;> simp
    | equivalent =>
      simp only [Formula.truth, Connective.apply, Connective.Says]
      cases l.truth v <;> cases r.truth v <;> simp
  same_iff h := by
    have hcut := Formula.same_iff_cutTerms_eq.1 h
    rw [← Formula.truth_cutTerms, hcut, Formula.truth_cutTerms]

/-! ## One line after the other -/

variable (ρ : Reading)

/-- What was derived under an assumption need only be true if the assumption is. -/
theorem holds_of_closes {rule : Rule} {target p q : Formula}
    (h : rule.closes target p q = true) (hq : ρ.Holds p → ρ.Holds q) : ρ.Holds target := by
  cases rule with
  | conditionalProof =>
    simp only [Rule.closes] at h
    split at h
    · next l r =>
      rw [Bool.and_eq_true] at h
      rw [ρ.implies_iff, ρ.same_iff h.1, ρ.same_iff h.2]
      exact hq
    · cases h
  | indirectProof =>
    simp only [Rule.closes, Bool.and_eq_true] at h
    obtain ⟨hneg, h⟩ := h
    split at h
    · next l r =>
      rw [ρ.isNegation_iff hneg]
      intro hp
      have hboth := (ρ.and_iff l r).1 (hq hp)
      exact (ρ.isNegation_iff h).1 hboth.1 hboth.2
    · cases h
  | _ => cases h

/-- Whether a line is true as soon as all assumptions are that it depends on. -/
def Supports (lines : List Line) (i : Nat) : Prop :=
  ∀ l, Proof.lineNumbered? lines i = some l →
    (∀ k b, Proof.DependsOn lines i k → Proof.lineNumbered? lines k = some b →
      ρ.Holds b.proposition) →
    ρ.Holds l.proposition

variable {p : Proof}

/-- Conditional and indirect proof: of what the derived line depends on, all is kept but what says
the same as the assumption. -/
theorem supports_of_discharges {i g : Nat} {a : Line} (hd : Proof.Discharges p.lines i a g)
    (hg : ρ.Supports p.lines g) : ρ.Supports p.lines i := by
  intro l hl hdepends
  have hdischarges := hd
  obtain ⟨l', j, d, hl', -, -, -, -, hderived, hcloses⟩ := hd
  cases hl.symm.trans hl'
  refine ρ.holds_of_closes hcloses fun ha => hg d hderived fun k b hk hb => ?_
  rcases hsame : b.proposition.same a.proposition with _ | _
  · exact hdepends k b (.kept hdischarges hk hb hsame) hb
  · exact (ρ.same_iff hsame).2 ha

/-- Any other rule that cites: what a cited line depends on, this line depends on. -/
theorem supports_of_cited {i : Nat} {l : Line} {cited : List Line}
    (hl : Proof.lineNumbered? p.lines i = some l) (hnumber : l.number = i)
    (hfollows : Proof.Follows p.lines l cited) (hrule : l.rule.restsOnCitations = true)
    (hfree : ∀ l ∈ p.lines, l.proposition.isQuantifierFree = true)
    (hearlier : ∀ j < i, ρ.Supports p.lines j) : ρ.Supports p.lines i := by
  intro l' hl' hdepends
  cases hl.symm.trans hl'
  have hcited : ∀ m ∈ cited, m.proposition.isQuantifierFree = true ∧ ρ.Holds m.proposition := by
    intro m hm
    obtain ⟨j, hcites, hj⟩ := hfollows.exists_cites hl hnumber hm
    refine ⟨hfree m (Proof.mem_of_lineNumbered? hj), ?_⟩
    exact hearlier j hcites.lt m hj fun k b hk hb => hdepends k b (.cited hl hrule hcites hk) hb
  obtain ⟨room, hallowed⟩ := hfollows.allowed
  have hcount : (cited.map Line.toSource).length = l.rule.citedCount := by
    rw [List.length_map, hfollows.count]
  refine ρ.holds_of_check hrule hcount hallowed (hfree l (Proof.mem_of_lineNumbered? hl)) ?_ ?_
  · intro s hs
    obtain ⟨m, hm, rfl⟩ := List.mem_map.1 hs
    exact (hcited m hm).1
  · intro s hs
    obtain ⟨m, hm, rfl⟩ := List.mem_map.1 hs
    exact (hcited m hm).2

/-- **One line.** If the earlier lines are true as far as what they depend on is, so is a valid
line. -/
theorem supports_step {room : Nat} (hp : p.Recorded)
    (hvalid : ∀ l ∈ p.lines, p.checkLine room l = .ok true)
    (hfree : ∀ l ∈ p.lines, l.proposition.isQuantifierFree = true)
    (hpremises : ∀ f ∈ p.premises, ρ.Holds f) {i : Nat}
    (hearlier : ∀ j < i, ρ.Supports p.lines j) : ρ.Supports p.lines i := by
  intro l hl
  have hmem := Proof.mem_of_lineNumbered? hl
  have hnumber := hp.number_eq hl
  obtain ⟨cited, hfollows⟩ := Proof.exists_follows_of_checkLine (hvalid l hmem)
  rcases l.rule.kinds with hrule | hrule | hrule | hrule
  · intro _
    exact hpremises _ (hp.premise_mem hmem hrule)
  · intro hdepends
    exact hdepends i l (.itself hl hrule) hl
  · obtain ⟨a, g, hd⟩ := hfollows.exists_discharges hl hnumber hrule
    exact ρ.supports_of_discharges hd (hearlier g hd.lt) l hl
  · exact ρ.supports_of_cited hl hnumber hfollows hrule hfree hearlier l hl

/-- **All lines.** In a proof without quantifiers in which all lines are valid and the premises are
true, every line is true as soon as the assumptions are that it depends on. -/
theorem supports_of_valid {room : Nat} (hp : p.Recorded)
    (hvalid : ∀ l ∈ p.lines, p.checkLine room l = .ok true)
    (hfree : ∀ l ∈ p.lines, l.proposition.isQuantifierFree = true)
    (hpremises : ∀ f ∈ p.premises, ρ.Holds f) (i : Nat) : ρ.Supports p.lines i := by
  induction i using Nat.strongRecOn with
  | ind i ih => exact ρ.supports_step hp hvalid hfree hpremises ih

end Reading

/-! ## Proofs with a full score -/

namespace Proof

/-- The conclusion of a proof with a full score is true where the premises are and the assumptions
that the last line depends on. -/
theorem Accepted.exists_conclusion {room : Nat} {p : Proof} (hp : p.Recorded)
    (haccepted : p.Accepted room)
    (hfree : ∀ l ∈ p.lines, l.proposition.isQuantifierFree = true) :
    ∃ f, p.conclusion = some f ∧ ∀ v, (∀ g ∈ p.premises, g.truth v = true) →
      (∀ k b, DependsOn p.lines p.lines.length k → lineNumbered? p.lines k = some b →
        b.proposition.truth v = true) → f.truth v = true := by
  obtain ⟨l, f, hlast, hf, hsame, -⟩ := haccepted.last
  refine ⟨f, hf, fun v hpremises hdepends => ?_⟩
  have hl := lineNumbered?_length hlast
  have hsupports :=
    (Reading.ofAssignment v).supports_of_valid hp haccepted.valid hfree hpremises p.lines.length
  exact ((Reading.ofAssignment v).same_iff hsame).1 (hsupports l hl hdepends)

/-- Where the premises entail the conclusion, this is found. -/
theorem isSemanticallyValid_of_truth {p : Proof} {f : Formula} (hf : p.conclusion = some f)
    (h : ∀ v, (∀ g ∈ p.premises, g.truth v = true) → f.truth v = true) (S : Solver) :
    p.isSemanticallyValid S = .ok true := by
  simp only [isSemanticallyValid, hf]
  rw [(Formula.entails_iff S).2 h]

/-- **Soundness with single discharge.** If a proof without quantifiers has the full score, and the
lines that conditional and indirect proof are put to rest on one assumption at most, then the
premises entail the conclusion. -/
theorem isSemanticallyValid_of_dischargesSingly {p : Proof} (hp : p.Built)
    (hfree : ∀ l ∈ p.lines, l.proposition.isQuantifierFree = true) (hsingle : p.DischargesSingly)
    {room : Nat} {options : List (String × Value)} {e : Evaluation} {log : List Record}
    (heval : p.evaluateWith room options = .ok (e, log)) (hscore : e.score = 1) :
    ∃ f, p.conclusion = some f ∧
      (∀ v, (∀ g ∈ p.premises, g.truth v = true) → f.truth v = true) ∧
      ∀ S, p.isSemanticallyValid S = .ok true := by
  have hrecorded := hp.recorded
  have haccepted := accepted_of_score heval hscore
  obtain ⟨f, hf, htruth⟩ := haccepted.exists_conclusion hrecorded hfree
  have hentails : ∀ v, (∀ g ∈ p.premises, g.truth v = true) → f.truth v = true := by
    intro v hpremises
    refine htruth v hpremises fun k b hk _ => ?_
    obtain ⟨l, _, hlast, -, -, hopen⟩ := haccepted.last
    have hmem := hrecorded.mem_assumptions_of_dependsOn hsingle hk (lineNumbered?_length hlast)
    rw [hopen] at hmem
    cases hmem
  exact ⟨f, hf, hentails, isSemanticallyValid_of_truth hf hentails⟩

/-- A conditional that is proved by conditional proof from a premise. -/
theorem isSemanticallyValid_conditional :
    let p : Formula := .atom ⟨'p', rfl⟩
    let q : Formula := .atom ⟨'q', rfl⟩
    let r : Formula := .atom ⟨'r', rfl⟩
    let f : Formula := .binary .implies p (.binary .or q r)
    let steps : Proof := ((((empty.add ⟨.binary .implies p q, .premise, []⟩).add
      ⟨p, .assumption, []⟩).add ⟨q, .modusPonens, [.int 1, .int 2]⟩).add
      ⟨.binary .or q r, .addition, [.int 3]⟩).add ⟨f, .conditionalProof, [.int 2, .int 4]⟩
    DischargesSingly { steps with conclusion := some f } ∧
      isSemanticallyValid .search { steps with conclusion := some f } = .ok true := by
  intro p q r f steps
  have hbuilt : Built { steps with conclusion := some f } :=
    ((((((Built.start [] none).add _).add _).add _).add _).add _).conclude _
  have hsingle : DischargesSingly { steps with conclusion := some f } := by
    unfold DischargesSingly
    decide
  have hscore : (evaluate 0 { steps with conclusion := some f } (.int 0)).score = 1 := rfl
  have hcitations : ∀ c ∈ ([.int 1, .int 2, .int 3, .int 2, .int 4] : List Value),
      c.isWritable = true := by
    simp (disch := decide) [Value.isWritable_of_natAbs_le]
  have hwritable : IsWritable { steps with conclusion := some f } :=
    hbuilt.recorded.isWritable (Nat.le_of_ble_eq_true rfl) hcitations
  obtain ⟨e, log, heval, hscore⟩ := evaluateWith_nil_of_score hscore hwritable
  obtain ⟨-, -, -, hvalid⟩ :=
    isSemanticallyValid_of_dischargesSingly hbuilt (by decide) hsingle heval hscore
  exact ⟨hsingle, hvalid .search⟩

/-- **Soundness with any discharge.** If a proof without quantifiers has the full score, the
premises entail the conclusion together with the assumptions that the last line depends on; so they
entail it alone if there are none. -/
theorem conclusion_of_premises_and_assumptions {p : Proof} (hp : p.Built)
    (hfree : ∀ l ∈ p.lines, l.proposition.isQuantifierFree = true)
    {room : Nat} {options : List (String × Value)} {e : Evaluation} {log : List Record}
    (heval : p.evaluateWith room options = .ok (e, log)) (hscore : e.score = 1) :
    ∃ f, p.conclusion = some f ∧
      (∀ v, (∀ g ∈ p.premises, g.truth v = true) →
        (∀ k b, DependsOn p.lines p.lines.length k → lineNumbered? p.lines k = some b →
          b.proposition.truth v = true) → f.truth v = true) ∧
      ((∀ k, ¬ DependsOn p.lines p.lines.length k) →
        ∀ S, p.isSemanticallyValid S = .ok true) := by
  have haccepted := accepted_of_score heval hscore
  obtain ⟨f, hf, htruth⟩ := haccepted.exists_conclusion hp.recorded hfree
  refine ⟨f, hf, htruth, fun hnone => isSemanticallyValid_of_truth hf fun v hpremises => ?_⟩
  exact htruth v hpremises fun k b hk _ => absurd hk (hnone k)

/-- A full score alone is not enough: here `q` is discharged from `p`, and `p` stays open without
being recorded. -/
theorem full_score_not_valid :
    let p : Formula := .atom ⟨'p', rfl⟩
    let q : Formula := .atom ⟨'q', rfl⟩
    let f : Formula := .binary .implies q p
    let steps : Proof := ((empty.add ⟨p, .assumption, []⟩).add ⟨q, .assumption, []⟩).add
      ⟨f, .conditionalProof, [.int 2, .int 1]⟩
    Built { steps with conclusion := some f } ∧
      (∀ l ∈ steps.lines, l.proposition.isQuantifierFree = true) ∧
      (∀ room, ∃ e log,
        evaluateWith room { steps with conclusion := some f } [] = .ok (e, log) ∧ e.score = 1) ∧
      ∀ S, isSemanticallyValid S { steps with conclusion := some f } = .ok false := by
  intro p q f steps
  have hscore : ∀ room, (evaluate room { steps with conclusion := some f } (.int 0)).score = 1 :=
    fun _ => rfl
  have hbuilt : Built { steps with conclusion := some f } :=
    ((((Built.start [] none).add _).add _).add _).conclude _
  have hcitations : ∀ c ∈ ([.int 2, .int 1] : List Value), c.isWritable = true := by
    simp (disch := decide) [Value.isWritable_of_natAbs_le]
  have hwritable : IsWritable { steps with conclusion := some f } :=
    hbuilt.recorded.isWritable (Nat.le_of_ble_eq_true rfl) hcitations
  refine ⟨hbuilt, by decide, fun room => evaluateWith_nil_of_score (hscore room) hwritable, ?_⟩
  intro S
  have hentails : Formula.entails S [] f ≠ true := by
    rw [Ne, Formula.entails_iff]
    intro h
    exact absurd (h (fun s => s == "q") (List.forall_mem_nil _)) (by decide)
  exact congrArg Except.ok (Bool.eq_false_iff.2 hentails)

/-- With one line more, which discharges the other assumption too, the premises do entail the
conclusion. -/
theorem isSemanticallyValid_nested :
    let p : Formula := .atom ⟨'p', rfl⟩
    let q : Formula := .atom ⟨'q', rfl⟩
    let f : Formula := .binary .implies q p
    let g : Formula := .binary .implies p f
    let steps : Proof := (((empty.add ⟨p, .assumption, []⟩).add ⟨q, .assumption, []⟩).add
      ⟨f, .conditionalProof, [.int 2, .int 1]⟩).add ⟨g, .conditionalProof, [.int 1, .int 3]⟩
    isSemanticallyValid .search { steps with conclusion := some g } = .ok true := by
  intro p q f g steps
  have hbuilt : Built { steps with conclusion := some g } :=
    (((((Built.start [] none).add _).add _).add _).add _).conclude _
  have hscore : (evaluate 0 { steps with conclusion := some g } (.int 0)).score = 1 := rfl
  have hcitations : ∀ c ∈ ([.int 2, .int 1, .int 1, .int 3] : List Value), c.isWritable = true := by
    simp (disch := decide) [Value.isWritable_of_natAbs_le]
  have hwritable : IsWritable { steps with conclusion := some g } :=
    hbuilt.recorded.isWritable (Nat.le_of_ble_eq_true rfl) hcitations
  obtain ⟨e, log, heval, hscore⟩ := evaluateWith_nil_of_score hscore hwritable
  obtain ⟨-, -, -, hvalid⟩ :=
    conclusion_of_premises_and_assumptions hbuilt (by decide) heval hscore
  have hone : ∀ {k}, DependsOn steps.lines 1 k → k = 1 := by
    rintro k (⟨hl, hr⟩ | ⟨⟨⟩, ⟨⟩, -, -⟩ | ⟨⟨l, -, -, ⟨⟩, -, -, -, -, -, ⟨⟩⟩, -, -, -⟩)
    rfl
  have hthree : ∀ {k}, DependsOn steps.lines 3 k → k = 1 := by
    rintro k (⟨⟨⟩, ⟨⟩⟩ | ⟨⟨⟩, ⟨⟩, -, -⟩ |
      ⟨⟨l, j, d, ⟨⟩, -, -, -, hcites, hd, hcloses⟩, h, -, -⟩)
    obtain ⟨c, hc, hj⟩ := hcites.exists_citation rfl
    rcases List.mem_pair.1 hc with rfl | rfl
    · cases hj
      cases hd
      have hsame : p.same q = true := (Bool.and_eq_true_iff.1 hcloses).2
      cases hsame
    · cases hj
      exact hone h
  refine hvalid (fun k hk => ?_) .search
  rcases (show DependsOn steps.lines 4 k from hk) with ⟨⟨⟩, ⟨⟩⟩ | ⟨⟨⟩, ⟨⟩, -, -⟩ |
    ⟨⟨l, j, d, ⟨⟩, hcited, ha, hassumption, hderived, -, -⟩, h, hb, hne⟩
  have hk : k = 1 := by
    obtain ⟨c, hc, hg⟩ := hderived.exists_citation rfl
    rcases List.mem_pair.1 hc with rfl | rfl
    · cases hg
      exact hone h
    · cases hg
      exact hthree h
  subst hk
  obtain ⟨c, hc, hj⟩ := hcited.exists_citation rfl
  rcases List.mem_pair.1 hc with rfl | rfl
  · cases hj
    cases ha
    cases hb
    cases hne
  · cases hj
    cases ha
    cases hassumption

end Proof

end NaturalDeduction
