import NaturalDeduction.Proofs.Entailment
import NaturalDeduction.Proofs.TruthTable

/-!
# Abstraction agrees with evaluation

There are two ways to ask whether formulas can be true. One abstracts them to Boolean expressions
over names and searches through the truth values of the names. The other evaluates them under
assignments, as the rows of a truth table do. Both give the same answers
(`Formula.abstraction_agrees_with_evaluation`).

Between the two stands `Formula.truth`, the truth value under truth values of all names. Evaluation
looks at the atoms of the table alone (`Formula.evaluate_congr`), and where these have truth values
it is that truth value (`Formula.evaluate_of_decides`). Conversely, any truth values of the names
are those of a row (`Formula.forall_row_iff`), and for finitely many formulas those of a table
(`Formula.exists_ofTable_decides`). An atom under a quantifier does not count: the quantified
formula is an atom itself.
-/

namespace NaturalDeduction

/-! ## Assignments -/

/-- An assignment decides a formula if it gives truth or falsity to every atom of its table. -/
def Assignment.Decides (a : Assignment) (f : Formula) : Prop :=
  ∀ g ∈ f.tableAtoms, ∃ b, a g.canonical = .ofBool b

/-- Truth values for finitely many names are given by a table. -/
theorem Assignment.exists_ofTable (names : List String) (v : String → Bool) :
    ∃ table, ∀ s ∈ names, Assignment.ofTable table s = .ofBool (v s) := by
  refine ⟨names.map fun s => (s, .bool (v s)), fun s hs => ?_⟩
  have hlookup : (names.map fun s => (s, Value.bool (v s))).lookup s = some (.bool (v s)) := by
    induction names with
    | nil => cases hs
    | cons t names ih =>
      by_cases ht : s = t
      · subst ht
        exact List.lookup_cons_self
      · rw [List.map_cons, List.lookup_cons, beq_false_of_ne ht]
        exact ih ((List.mem_cons.1 hs).resolve_left ht)
  simp only [ofTable, hlookup, TruthValue.ofValue]

namespace Formula

variable {a b : Assignment} {f : Formula}

/-- The value of a formula depends on the atoms outside the scopes of quantifiers alone. -/
theorem evaluate_congr_occurrences
    (h : ∀ g ∈ f.occurrences true, g.isTableAtom = true → a g.canonical = b g.canonical) :
    f.evaluate a = f.evaluate b := by
  induction f with
  | atom x => exact h _ List.mem_cons_self rfl
  | predicate P t ts => exact h _ List.mem_cons_self rfl
  | not f ih =>
    have hf := ih fun g hg => h g (List.mem_cons_of_mem _ hg)
    rw [evaluate, evaluate, hf]
  | binary op l r ihl ihr =>
    have hl := ihl fun g hg => h g (List.mem_cons_of_mem _ (List.mem_append_left _ hg))
    have hr := ihr fun g hg => h g (List.mem_cons_of_mem _ (List.mem_append_right _ hg))
    rw [evaluate, evaluate, hl, hr]
  | quantified q x f => exact h _ List.mem_cons_self rfl

/-- **Values of other names do not matter.** -/
theorem evaluate_congr (h : ∀ g ∈ f.tableAtoms, a g.canonical = b g.canonical) :
    f.evaluate a = f.evaluate b := by
  -- An atom that occurs may stand in the table as another formula with the same canonical form.
  refine evaluate_congr_occurrences fun g hg hatom => ?_
  obtain ⟨g', hg', hcanonical⟩ := exists_mem_tableAtoms hg hatom
  rw [← hcanonical]
  exact h g' hg'

/-- Evaluation under two truth values is the truth of the formula. -/
theorem evaluate_ofBool (v : String → Bool) (f : Formula) :
    f.evaluate (fun s => .ofBool (v s)) = .ofBool (f.truth v) := by
  induction f with
  | atom x => rfl
  | predicate P t ts => rfl
  | not f ih =>
    rw [evaluate, ih]
    rfl
  | binary op l r ihl ihr =>
    rw [evaluate, ihl, ihr, truth]
    generalize l.truth v = p, r.truth v = q
    cases op <;> cases p <;> cases q <;> rfl
  | quantified q x f => rfl

/-- An assignment that agrees with truth values on the atoms evaluates to the truth value. -/
theorem evaluate_eq_truth {v : String → Bool}
    (h : ∀ g ∈ f.tableAtoms, a g.canonical = .ofBool (v g.canonical)) :
    f.evaluate a = .ofBool (f.truth v) := by
  rw [← evaluate_ofBool]
  exact evaluate_congr h

/-- Evaluation under an assignment that decides the atoms is the truth of the formula. -/
theorem evaluate_of_decides (h : a.Decides f) :
    f.evaluate a = .ofBool (f.truth fun s => (a s).isTrue) := by
  refine evaluate_eq_truth fun g hg => ?_
  obtain ⟨b, hb⟩ := h g hg
  rw [hb]
  rfl

/-- For finitely many formulas, truth values are given by a table that decides them. -/
theorem exists_ofTable_decides (fs : List Formula) (v : String → Bool) :
    ∃ table, ∀ f ∈ fs, (Assignment.ofTable table).Decides f ∧
      f.evaluate (.ofTable table) = .ofBool (f.truth v) := by
  obtain ⟨table, htable⟩ :=
    Assignment.exists_ofTable (fs.flatMap fun f => f.tableAtoms.map canonical) v
  refine ⟨table, fun f hf => ?_⟩
  have hatoms : ∀ g ∈ f.tableAtoms,
      Assignment.ofTable table g.canonical = .ofBool (v g.canonical) := by
    intro g hg
    exact htable _ (List.mem_flatMap.2 ⟨f, hf, List.mem_map_of_mem hg⟩)
  exact ⟨fun g hg => ⟨_, hatoms g hg⟩, evaluate_eq_truth hatoms⟩

/-! ## Last cells -/

/-- A row that is written for truth values gives them to the atoms. -/
theorem rowAssignment_of_tableRow_eq {v : String → Bool} {j : Nat}
    (hrow : tableRow f.tableAtoms.length j = f.tableAtoms.map fun g => v g.canonical) :
    ∀ g ∈ f.tableAtoms, rowAssignment f.tableAtoms (tableRow f.tableAtoms.length j) g.canonical =
      .ofBool (v g.canonical) := by
  have hmap := map_rowAssignment f.nodup_tableAtoms (length_tableRow f.tableAtoms.length j)
  nth_rewrite 2 [hrow] at hmap
  rw [List.map_map] at hmap
  exact List.map_inj_left.1 hmap

/-- The assignment of a row decides the atoms of the formula. -/
theorem decides_rowAssignment (f : Formula) (j : Nat) :
    (rowAssignment f.tableAtoms (tableRow f.tableAtoms.length j)).Decides f := by
  intro g hg
  have hmem := List.mem_map_of_mem
    (f := fun g => rowAssignment f.tableAtoms (tableRow f.tableAtoms.length j) g.canonical) hg
  rw [map_rowAssignment f.nodup_tableAtoms (length_tableRow f.tableAtoms.length j)] at hmem
  obtain ⟨b, -, hb⟩ := List.mem_map.1 hmem
  exact ⟨b, hb.symm⟩

/-- The last of the cells under an assignment is the value of the formula. -/
theorem getLast?_cells (a : Assignment) (f : Formula) :
    (f.tableColumns.map fun g => some (g.evaluate a)).getLast? = some (some (f.evaluate a)) := by
  rw [List.getLast?_map, getLast?_tableColumns]
  rfl

/-- The last cells of the rows are the truth values of the formula, under all truth values of the
atoms. -/
theorem forall_row_iff (f : Formula) (P : Option (Option TruthValue) → Prop) :
    (∀ row ∈ f.truthTable false, P row.getLast?) ↔
      ∀ v, P (some (some (.ofBool (f.truth v)))) := by
  rw [truthTable_eq_map]
  constructor
  · intro hrows v
    obtain ⟨j, hj, hrow⟩ := exists_tableRow (f.tableAtoms.map fun g => v g.canonical)
    rw [List.length_map] at hj hrow
    have hlast := hrows _ (List.mem_map_of_mem (List.mem_range.2 hj))
    rwa [getLast?_cells, evaluate_eq_truth (rowAssignment_of_tableRow_eq hrow)] at hlast
  · intro htruth row hrow
    obtain ⟨j, -, rfl⟩ := List.mem_map.1 hrow
    rw [getLast?_cells, evaluate_of_decides (decides_rowAssignment f j)]
    exact htruth _

/-- Some row ends with a cell if the truth of the formula is that cell somewhere. -/
theorem exists_row_iff (f : Formula) (P : Option (Option TruthValue) → Prop) :
    (∃ row ∈ f.truthTable false, P row.getLast?) ↔
      ∃ v, P (some (some (.ofBool (f.truth v)))) := by
  rw [← not_iff_not]
  simpa using f.forall_row_iff fun cell => ¬P cell

/-! ## Agreement -/

/-- Two formulas are equivalent if their values coincide under every table that decides both. -/
theorem isEquivalent_iff_evaluate (S : Solver) (f g : Formula) :
    isEquivalent S f g = true ↔
      ∀ table, (Assignment.ofTable table).Decides f → (Assignment.ofTable table).Decides g →
        f.evaluate (.ofTable table) = g.evaluate (.ofTable table) := by
  rw [isEquivalent_iff]
  constructor
  · intro htruth table hf hg
    rw [evaluate_of_decides hf, evaluate_of_decides hg, htruth]
  · intro hvalues v
    obtain ⟨table, htable⟩ := exists_ofTable_decides [f, g] v
    obtain ⟨hf, hftruth⟩ := htable f List.mem_cons_self
    obtain ⟨hg, hgtruth⟩ := htable g (List.mem_cons_of_mem f List.mem_cons_self)
    have heq := hvalues table hf hg
    rw [hftruth, hgtruth] at heq
    exact TruthValue.ofBool.inj heq

/-- Premises entail a conclusion if it is true under every table that decides them all and makes the
premises true. -/
theorem entails_iff_evaluate (S : Solver) (premises : List Formula) (c : Formula) :
    entails S premises c = true ↔
      ∀ table, (∀ p ∈ premises, (Assignment.ofTable table).Decides p) →
        (Assignment.ofTable table).Decides c →
        (∀ p ∈ premises, p.evaluate (.ofTable table) = .ofBool true) →
          c.evaluate (.ofTable table) = .ofBool true := by
  rw [entails_iff]
  constructor
  · intro hentails table hpremises hc htrue
    rw [evaluate_of_decides hc, hentails]
    intro p hp
    have hvalue := htrue p hp
    rw [evaluate_of_decides (hpremises p hp)] at hvalue
    exact TruthValue.ofBool.inj hvalue
  · intro hvalues v htrue
    obtain ⟨table, htable⟩ := exists_ofTable_decides (c :: premises) v
    obtain ⟨hc, hctruth⟩ := htable c List.mem_cons_self
    have hpremises : ∀ p ∈ premises, (Assignment.ofTable table).Decides p ∧
        p.evaluate (.ofTable table) = .ofBool true := by
      intro p hp
      rw [← htrue p hp]
      exact htable p (List.mem_cons_of_mem c hp)
    have heq := hvalues table (fun p hp => (hpremises p hp).1) hc fun p hp => (hpremises p hp).2
    rw [hctruth] at heq
    exact TruthValue.ofBool.inj heq

/-- **Abstraction agrees with evaluation**, whatever solver is asked. A formula is satisfiable, a
tautology or a contradiction if some row, every row or no row of its truth table ends with truth.
Equivalence and entailment are what evaluation under tables says, and what is given to names other
than the atoms never matters. -/
theorem abstraction_agrees_with_evaluation (S : Solver) (f g : Formula) (premises : List Formula)
    (c : Formula) :
    (f.isSatisfiable S = true ↔
      ∃ row ∈ f.truthTable false, row.getLast? = some (some (.ofBool true))) ∧
    (f.isTautology S = true ↔
      ∀ row ∈ f.truthTable false, row.getLast? = some (some (.ofBool true))) ∧
    (f.isContradiction S = true ↔
      ∀ row ∈ f.truthTable false, row.getLast? ≠ some (some (.ofBool true))) ∧
    (isEquivalent S f g = true ↔
      ∀ table, (Assignment.ofTable table).Decides f → (Assignment.ofTable table).Decides g →
        f.evaluate (.ofTable table) = g.evaluate (.ofTable table)) ∧
    (entails S premises c = true ↔
      ∀ table, (∀ p ∈ premises, (Assignment.ofTable table).Decides p) →
        (Assignment.ofTable table).Decides c →
        (∀ p ∈ premises, p.evaluate (.ofTable table) = .ofBool true) →
          c.evaluate (.ofTable table) = .ofBool true) ∧
    ∀ a b : Assignment, (∀ h ∈ f.tableAtoms, a h.canonical = b h.canonical) →
      f.evaluate a = f.evaluate b := by
  refine ⟨?_, ?_, ?_, isEquivalent_iff_evaluate S f g, entails_iff_evaluate S premises c,
    fun a b => evaluate_congr⟩
  · rw [isSatisfiable_iff, exists_row_iff f (· = some (some (.ofBool true)))]
    simp
  · rw [isTautology_iff, forall_row_iff f (· = some (some (.ofBool true)))]
    simp
  · rw [isContradiction_iff, forall_row_iff f (· ≠ some (some (.ofBool true)))]
    simp

/-- The search finds out that `p V ~p` is a tautology, as every row of its table ends with truth. -/
theorem isTautology_of_excluded_middle :
    let p : Formula := .atom ⟨'p', rfl⟩
    let f : Formula := .binary .or p (.not p)
    (∀ row ∈ f.truthTable false, row.getLast? = some (some (.ofBool true))) ∧
      f.isTautology .search = true := by
  intro p f
  have htrue : ∀ v, f.truth v = true := fun v => Bool.or_not_self (p.truth v)
  have hrows : ∀ row ∈ f.truthTable false, row.getLast? = some (some (.ofBool true)) :=
    (f.forall_row_iff (· = some (some (.ofBool true)))).2 fun v => by rw [htrue]
  obtain ⟨-, htautology, -⟩ := abstraction_agrees_with_evaluation .search f f [] f
  exact ⟨hrows, htautology.2 hrows⟩

end Formula

end NaturalDeduction
