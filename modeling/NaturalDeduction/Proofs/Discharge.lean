import NaturalDeduction.Proofs.Checking
import NaturalDeduction.Proofs.Procedures

/-!
# Discharging assumptions

A line of conditional or indirect proof closes one assumption and keeps all others that were needed
for what it is derived from. `Proof.DependsOn` says this: a line depends on an assumption if it is
that assumption, if it cites a line that depends on it, or if it discharges another assumption and
the derived line depends on it.

The numbers recorded with a line forget the assumptions that were kept. They include all that the
line depends on as long as there is never more than one open assumption to choose from
(`Proof.Recorded.mem_assumptions_of_dependsOn`).
-/

namespace NaturalDeduction

/-! ## The rules -/

namespace Rule

/-- The rules that discharge an assumption. -/
def discharges : Rule → Bool
  | conditionalProof => true
  | indirectProof => true
  | _ => false

/-- Whether a rule of discharge leads to the target when `q` was derived under the assumption `p`.
-/
def closes (rule : Rule) (target p q : Formula) : Bool :=
  match rule with
  | conditionalProof =>
    match target with
    | .binary .implies l r => l.same p && r.same q
    | _ => false
  | indirectProof =>
    target.isNegation p &&
      match q with
      | .binary .and l r => l.isNegation r
      | _ => false
  | _ => false

/-- Only a rule that discharges closes anything. -/
theorem discharges_of_closes {rule : Rule} {target p q : Formula}
    (h : rule.closes target p q = true) : rule.discharges = true := by
  cases rule with
  | conditionalProof => rfl
  | indirectProof => rfl
  | _ => cases h

/-- Of two cited lines, in either order, one is the assumption and the other is what was derived. -/
theorem mem_assumptionAndOther {a b : Source} {p q : Formula}
    (h : (p, q) ∈ assumptionAndOther a b) :
    (a.rule = .assumption ∧ p = a.proposition ∧ q = b.proposition) ∨
      (b.rule = .assumption ∧ p = b.proposition ∧ q = a.proposition) := by
  rcases List.mem_append.1 h with h | h
  · split at h
    · next ha =>
      cases List.mem_singleton.1 h
      exact .inl ⟨ha, rfl, rfl⟩
    · cases h
  · split at h
    · next hb =>
      cases List.mem_singleton.1 h
      exact .inr ⟨hb, rfl, rfl⟩
    · cases h

/-- A rule starts from nothing, discharges an assumption or rests on the lines it cites. -/
theorem kinds (rule : Rule) :
    rule = .premise ∨ rule = .assumption ∨ rule.discharges = true ∨
      rule.restsOnCitations = true := by
  cases rule <;> simp [discharges, restsOnCitations, restsOnNothing]

/-- A rule of discharge is checked by going through the ways to take one of two lines for the
assumption. -/
theorem check_of_discharges {rule : Rule} (hrule : rule.discharges = true) (room : Nat)
    (target : Formula) (a b : Source) :
    rule.check room target [a, b] =
      .ok ((assumptionAndOther a b).any fun (p, q) => rule.closes target p q) := by
  cases rule with
  | conditionalProof => exact Procedure.conditionalProof_eq target a b
  | indirectProof => exact Procedure.indirectProof_eq target a b
  | _ => cases hrule

/-- A rule of discharge takes some cited line for the assumption and some for what was derived. -/
theorem exists_closes_of_check {rule : Rule} (hrule : rule.discharges = true) {room : Nat}
    {target : Formula} {sources : List Source} (hcount : sources.length = rule.citedCount)
    (h : rule.check room target sources = .ok true) :
    ∃ a ∈ sources, ∃ b ∈ sources, a.rule = .assumption ∧
      rule.closes target a.proposition b.proposition = true := by
  have htwo : rule.citedCount = 2 := by
    cases rule <;> first | rfl | cases hrule
  obtain ⟨a, b, rfl⟩ := List.length_eq_two.1 (hcount.trans htwo)
  rw [check_of_discharges hrule, Except.ok.injEq] at h
  obtain ⟨⟨p, q⟩, hmem, hcloses⟩ := List.any_eq_true.1 h
  rcases mem_assumptionAndOther hmem with ⟨ha, rfl, rfl⟩ | ⟨hb, rfl, rfl⟩
  · exact ⟨a, by simp, b, by simp, ha, hcloses⟩
  · exact ⟨b, by simp, a, by simp, hb, hcloses⟩

end Rule

/-! ## Dependence -/

namespace Proof

/-- A line cites earlier lines only. -/
theorem Cites.lt {lines : List Line} {i j : Nat} (h : Cites lines i j) : j < i := by
  obtain ⟨-, -, -, hlt, -⟩ := h
  exact hlt

/-- What a line cites is among its citations. -/
theorem Cites.exists_citation {lines : List Line} {i j : Nat} {l : Line} (h : Cites lines i j)
    (hl : lineNumbered? lines i = some l) : ∃ c ∈ l.citations, c.toInt? = some (j : Int) := by
  obtain ⟨l', hl', -, -, hc⟩ := h
  cases hl.symm.trans hl'
  exact hc

/-- Numbers that are cited begin with one. -/
theorem Cites.one_le {lines : List Line} {i j : Nat} (h : Cites lines i j) : 1 ≤ j := by
  obtain ⟨-, -, hone, -⟩ := h
  exact hone

/-- There is a line under every number that is cited. -/
theorem Cites.exists_line {lines : List Line} {i j : Nat} (h : Cites lines i j) :
    ∃ m, lineNumbered? lines j = some m := by
  obtain ⟨l, hl, hone, hlt, -⟩ := h
  obtain ⟨i, rfl⟩ := Nat.exists_eq_add_one_of_ne_zero (show i ≠ 0 by omega)
  obtain ⟨j, rfl⟩ := Nat.exists_eq_add_one_of_ne_zero (show j ≠ 0 by omega)
  have hlen := (List.getElem?_eq_some_iff.1 hl).1
  exact ⟨lines.get ⟨j, by omega⟩, List.getElem?_eq_getElem _⟩

/-- Whether line `i` discharges the assumption `a` from what is derived on line `g`. -/
def Discharges (lines : List Line) (i : Nat) (a : Line) (g : Nat) : Prop :=
  ∃ l j d, lineNumbered? lines i = some l ∧
    Cites lines i j ∧ lineNumbered? lines j = some a ∧ a.rule = .assumption ∧
    Cites lines i g ∧ lineNumbered? lines g = some d ∧
    l.rule.closes l.proposition a.proposition d.proposition = true

/-- What was derived stands before the line that discharges the assumption. -/
theorem Discharges.lt {lines : List Line} {i g : Nat} {a : Line} (h : Discharges lines i a g) :
    g < i := by
  obtain ⟨-, -, -, -, -, -, -, hcites, -, -⟩ := h
  exact hcites.lt

/-- Whether line `i` depends on the assumption on line `k`. Assumptions that say the same are
discharged together. -/
inductive DependsOn (lines : List Line) : (i k : Nat) → Prop
  /-- An assumption depends on itself. -/
  | itself {i : Nat} {l : Line} (hl : lineNumbered? lines i = some l)
      (hr : l.rule = .assumption) : DependsOn lines i i
  /-- Rules that do not discharge depend on what they cite. -/
  | cited {i j k : Nat} {l : Line} (hl : lineNumbered? lines i = some l)
      (hr : l.rule.restsOnCitations = true) (hc : Cites lines i j) (h : DependsOn lines j k) :
      DependsOn lines i k
  /-- What is not discharged is kept. -/
  | kept {i g k : Nat} {a b : Line} (hd : Discharges lines i a g) (h : DependsOn lines g k)
      (hb : lineNumbered? lines k = some b) (hne : b.proposition.same a.proposition = false) :
      DependsOn lines i k

/-- The lines that a valid line follows from are those that it cites. -/
theorem Follows.exists_cites {lines cited : List Line} {i : Nat} {l m : Line}
    (h : Follows lines l cited) (hl : lineNumbered? lines i = some l) (hnumber : l.number = i)
    (hm : m ∈ cited) : ∃ j, Cites lines i j ∧ lineNumbered? lines j = some m := by
  obtain ⟨n, hn, rfl⟩ := List.getElem_of_mem hm
  have hc : n < l.citations.length := by
    rw [h.means.length_eq]
    exact hn
  have hmeans := h.means.get hc hn
  obtain ⟨j, hj, hone, hlt, hm⟩ := earlier?_eq_some_iff.1 hmeans
  rw [hnumber] at hlt
  exact ⟨j, ⟨l, hl, hone, hlt, _, List.getElem_mem hc, hj⟩, hm⟩

/-- A valid line of conditional or indirect proof discharges an assumption. -/
theorem Follows.exists_discharges {lines cited : List Line} {i : Nat} {l : Line}
    (h : Follows lines l cited) (hl : lineNumbered? lines i = some l) (hnumber : l.number = i)
    (hrule : l.rule.discharges = true) : ∃ a g, Discharges lines i a g := by
  obtain ⟨room, hallowed⟩ := h.allowed
  have hcount : (cited.map Line.toSource).length = l.rule.citedCount := by
    rw [List.length_map, h.count]
  obtain ⟨s, hs, t, ht, hassumption, hcloses⟩ :=
    Rule.exists_closes_of_check hrule hcount hallowed
  obtain ⟨a, ha, rfl⟩ := List.mem_map.1 hs
  obtain ⟨d, hd, rfl⟩ := List.mem_map.1 ht
  obtain ⟨j, hcj, hj⟩ := h.exists_cites hl hnumber ha
  obtain ⟨g, hcg, hg⟩ := h.exists_cites hl hnumber hd
  exact ⟨a, g, l, j, d, hl, hcj, hj, hassumption, hcg, hg, hcloses⟩

/-! ## One open assumption at a time -/

/-- Whether the lines that any line of conditional or indirect proof cites rest on at most one
assumption together. -/
def DischargesSingly (p : Proof) : Prop :=
  ∀ l ∈ p.lines, l.rule.discharges = true →
    ∀ j ∈ citedAssumptions p.lines l.number l.citations,
      ∀ k ∈ citedAssumptions p.lines l.number l.citations, j = k

/-- What a cited line rests on is among the assumptions that the citations bring in. -/
theorem mem_citedAssumptions_of_cites {lines : List Line} {i j k : Nat} {l m : Line}
    (hc : Cites lines i j) (hl : lineNumbered? lines i = some l)
    (hm : lineNumbered? lines j = some m)
    (hk : k ∈ m.assumptions) : k ∈ citedAssumptions lines i l.citations := by
  obtain ⟨c, hmem, hcited⟩ := hc.exists_citation hl
  have hearlier := earlier?_eq_some_iff.2 ⟨j, hcited, hc.one_le, hc.lt, hm⟩
  exact mem_citedAssumptions.2 ⟨c, hmem, m, hearlier, hk⟩

/-- With one open assumption at a time, **the recorded numbers include all that a line depends on**.
-/
theorem Recorded.mem_assumptions_of_dependsOn {p : Proof} (hp : p.Recorded)
    (hsingle : p.DischargesSingly) {i k : Nat} (h : DependsOn p.lines i k) {l : Line}
    (hl : lineNumbered? p.lines i = some l) : k ∈ l.assumptions := by
  induction h generalizing l with
  | itself hl' hr =>
    cases hl.symm.trans hl'
    rw [hp.assumptions_of_assumption hl hr]
    exact List.mem_singleton_self _
  | cited hl' hr hc h ih =>
    cases hl.symm.trans hl'
    obtain ⟨m, hm⟩ := hc.exists_line
    rw [hp.assumptions_of_restsOnCitations hl hr]
    exact mem_citedAssumptions_of_cites hc hl hm (ih hm)
  | kept hd h hb hne ih =>
    -- the discharged assumption is the only one that is left to depend on
    obtain ⟨l', j, d, hl', hcj, hj, hassumption, hcg, hg, hcloses⟩ := hd
    cases hl.symm.trans hl'
    have hself := hp.assumptions_of_assumption hj hassumption
    have hjmem := mem_citedAssumptions_of_cites hcj hl hj (hself ▸ List.mem_singleton_self j)
    have hkmem := mem_citedAssumptions_of_cites hcg hl hg (ih hg)
    rw [← hp.number_eq hl] at hjmem hkmem
    cases hsingle _ (mem_of_lineNumbered? hl) (Rule.discharges_of_closes hcloses) _ hjmem _ hkmem
    cases hj.symm.trans hb
    rw [Formula.same_refl] at hne
    cases hne

end Proof

end NaturalDeduction
