import NaturalDeduction.Proofs.Abstraction
import NaturalDeduction.Proofs.Columns

/-!
# The rows of a truth table

A row begins with truth values for the atoms. These run through all lists of truth values of the
right length (`Formula.mem_rowValues`) in lexicographic order, truth before falsity
(`Formula.pairwise_rowValues`): with one atom more, the old rows come twice, first below truth and
then below falsity (`Formula.rowValues_succ`).

In the rest of the row stand the truth values of the other columns. The atoms of a column are atoms
of the whole formula, since what occurs in a subformula occurs in the formula. Therefore all atoms
have their values when the column is filled in, and no cell is indeterminate
(`Formula.evaluate_eq_truth_of_mem_tableColumns`).
-/

namespace NaturalDeduction.Formula

variable {f g : Formula}

/-! ## Lists of truth values in order -/

/-- The lexicographic order of lists of truth values, where truth comes before falsity. -/
def TruthFirst : List Bool → List Bool → Prop :=
  List.Lex fun b c => b = true ∧ c = false

/-- A row does not come before itself. -/
theorem TruthFirst.ne {bs cs : List Bool} (h : TruthFirst bs cs) : bs ≠ cs := by
  rintro rfl
  refine List.lex_irrefl ?_ bs h
  rintro b ⟨htrue, hfalse⟩
  rw [htrue] at hfalse
  cases hfalse

/-- The truth values of `n` atoms, row by row. -/
def rowValues (n : Nat) : List (List Bool) :=
  (List.range (rowCount n)).map (tableRow n)

/-- One more atom gives the rows below truth and then the rows below falsity. -/
theorem rowValues_succ (n : Nat) :
    rowValues (n + 1) = (rowValues n).map (true :: ·) ++ (rowValues n).map (false :: ·) := by
  have hcount : rowCount (n + 1) = rowCount n + rowCount n := by
    rw [rowCount_succ, Nat.mul_two]
  rw [rowValues, hcount, List.range_add, List.map_append, rowValues, List.map_map, List.map_map,
    List.map_map]
  congr 1
  · refine List.map_congr_left ?_
    intro j hj
    exact tableRow_of_lt (List.mem_range.1 hj)
  · refine List.map_congr_left ?_
    intro j hj
    exact tableRow_rowCount_add (List.mem_range.1 hj)

/-- The rows are all lists of truth values of their length. -/
theorem mem_rowValues {n : Nat} {bs : List Bool} : bs ∈ rowValues n ↔ bs.length = n := by
  rw [rowValues, List.mem_map]
  constructor
  · rintro ⟨j, -, rfl⟩
    exact length_tableRow n j
  · rintro rfl
    obtain ⟨j, hj, hrow⟩ := exists_tableRow bs
    exact ⟨j, List.mem_range.2 hj, hrow⟩

/-- **The truth values of the atoms come in lexicographic order.** -/
theorem pairwise_rowValues (n : Nat) : (rowValues n).Pairwise TruthFirst := by
  induction n with
  | zero => exact List.pairwise_singleton _ _
  | succ n ih =>
    have below : ∀ b, ((rowValues n).map (b :: ·)).Pairwise TruthFirst := by
      intro b
      refine List.pairwise_map.2 (ih.imp ?_)
      intro bs cs hlt
      exact .cons hlt
    rw [rowValues_succ, List.pairwise_append]
    refine ⟨below true, below false, ?_⟩
    intro bs hbs cs hcs
    obtain ⟨bs', -, rfl⟩ := List.mem_map.1 hbs
    obtain ⟨cs', -, rfl⟩ := List.mem_map.1 hcs
    exact .rel ⟨rfl, rfl⟩

/-- No row comes twice. -/
theorem nodup_rowValues (n : Nat) : (rowValues n).Nodup :=
  (pairwise_rowValues n).imp TruthFirst.ne

/-! ## Cells of atoms -/

/-- Truth values as they stand in a row. -/
def cells (bs : List Bool) : List (Option TruthValue) :=
  bs.map fun b => some (.ofBool b)

/-- Rows with the same cells have the same truth values. -/
theorem cells_injective : Function.Injective cells := by
  refine List.map_injective_iff.2 ?_
  intro b c heq
  exact TruthValue.ofBool.inj (Option.some.inj heq)

/-- A row begins with the cells of the atoms. -/
theorem map_take_truthTable (f : Formula) :
    (f.truthTable false).map (List.take f.tableAtoms.length) =
      (rowValues f.tableAtoms.length).map cells := by
  rw [truthTable, rowValues, List.map_map, List.map_map]
  refine List.map_congr_left ?_
  intro j _
  refine List.take_left' ?_
  rw [List.length_map, length_tableRow]

/-- Each list of truth values for the atoms is in one row, and in no other. -/
theorem existsUnique_row {bs : List Bool} (hbs : bs.length = f.tableAtoms.length) :
    ∃! j : Nat,
      ((f.truthTable false)[j]?).map (List.take f.tableAtoms.length) = some (cells bs) := by
  have hcell : ∀ j : Nat, ((f.truthTable false)[j]?).map (List.take f.tableAtoms.length) =
      ((rowValues f.tableAtoms.length)[j]?).map cells := by
    intro j
    rw [← List.getElem?_map, map_take_truthTable, List.getElem?_map]
  obtain ⟨j, hj⟩ := List.mem_iff_getElem?.1 (mem_rowValues.2 hbs)
  refine ⟨j, (hcell j).trans ?_, ?_⟩
  · rw [hj]
    rfl
  · intro i hi
    rw [hcell] at hi
    obtain ⟨cs, hcs, heq⟩ := Option.map_eq_some_iff.1 hi
    rw [cells_injective heq, ← hj] at hcs
    have hlt := (List.getElem?_eq_some_iff.1 hj).1
    exact ((List.getElem?_inj hlt (nodup_rowValues _)).1 hcs.symm).symm

/-! ## The other cells -/

/-- A partial table leaves out all cells but those of the atoms. -/
theorem truthTable_true (f : Formula) :
    f.truthTable true = (f.truthTable false).map fun row =>
      row.take f.tableAtoms.length ++ List.replicate (row.length - f.tableAtoms.length) none := by
  simp only [truthTable, List.map_map]
  refine List.map_congr_left ?_
  intro j _
  have hlength : ((tableRow f.tableAtoms.length j).map fun b => some (TruthValue.ofBool b)).length =
      f.tableAtoms.length := by
    rw [List.length_map, length_tableRow]
  rw [Function.comp_apply, List.take_left' hlength, List.length_append, hlength,
    Nat.add_sub_cancel_left, List.length_map, ← List.map_const']
  rfl

/-- **Every column has a truth value** once the atoms of the table do. -/
theorem evaluate_eq_truth_of_mem_tableColumns {a : Assignment} {v : String → Bool}
    (ha : ∀ k ∈ f.tableAtoms, a k.canonical = .ofBool (v k.canonical)) (hg : g ∈ f.tableColumns) :
    g.evaluate a = .ofBool (g.truth v) := by
  rw [← evaluate_ofBool]
  refine evaluate_congr_occurrences ?_
  intro h hh hatom
  -- An atom of the column occurs in the whole formula, so it is an atom of the table.
  have hsubformula := (tableColumns_perm f).mem_iff.1 hg
  obtain ⟨path, hpath⟩ := (listsOccurrences_subformulas true f).occurs g hsubformula
  obtain ⟨path', hpath'⟩ := mem_occurrences_iff.1 hh
  obtain ⟨k, hk, hcanonical⟩ :=
    exists_mem_tableAtoms (mem_occurrences_iff.2 ⟨_, hpath.trans hpath'⟩) hatom
  rw [← hcanonical]
  exact ha k hk

/-- A row consists of the values of the columns under an assignment that decides the formula. -/
theorem exists_assignment_of_row {row : List (Option TruthValue)}
    (hrow : row ∈ f.truthTable false) :
    ∃ a : Assignment, a.Decides f ∧ row = f.tableColumns.map fun g => some (g.evaluate a) := by
  rw [truthTable_eq_map] at hrow
  obtain ⟨j, -, rfl⟩ := List.mem_map.1 hrow
  exact ⟨_, decides_rowAssignment f j, rfl⟩

/-- The first columns are the atoms. -/
theorem take_tableColumns (f : Formula) :
    f.tableColumns.take f.tableAtoms.length = f.tableAtoms := by
  rw [tableColumns_eq, List.take_left]

/-- The cells of the atoms give truth values. -/
theorem exists_truth_of_row {row : List (Option TruthValue)} (hrow : row ∈ f.truthTable false) :
    ∃ v : String → Bool,
      row.take f.tableAtoms.length = cells (f.tableAtoms.map fun g => v g.canonical) := by
  obtain ⟨a, hdecides, rfl⟩ := exists_assignment_of_row hrow
  refine ⟨fun s => (a s).isTrue, ?_⟩
  rw [← List.map_take, take_tableColumns, cells, List.map_map]
  refine List.map_congr_left ?_
  intro g hg
  obtain ⟨b, hb⟩ := hdecides g hg
  simp only [evaluate_of_isTableAtom (mem_tableAtoms.1 hg).2, Function.comp_apply, hb,
    TruthValue.isTrue]

/-- Truth values that fit the cells of the atoms fit all cells. -/
theorem row_eq_cells {row : List (Option TruthValue)} {v : String → Bool}
    (hrow : row ∈ f.truthTable false)
    (hatoms : row.take f.tableAtoms.length = cells (f.tableAtoms.map fun g => v g.canonical)) :
    row = cells (f.tableColumns.map (truth v)) := by
  obtain ⟨a, -, rfl⟩ := exists_assignment_of_row hrow
  have ha : ∀ g ∈ f.tableAtoms, a g.canonical = .ofBool (v g.canonical) := by
    rw [← List.map_take, take_tableColumns, cells, List.map_map, List.map_inj_left] at hatoms
    intro g hg
    have heq := Option.some.inj (hatoms g hg)
    rwa [evaluate_of_isTableAtom (mem_tableAtoms.1 hg).2] at heq
  rw [cells, List.map_map]
  refine List.map_congr_left ?_
  intro g hg
  rw [evaluate_eq_truth_of_mem_tableColumns ha hg]
  rfl

/-- **Truth tables run through all assignments and are filled in classically.** There are two to the
power of the number of atoms rows, of the length of the head. The cells of the atoms are all lists
of truth values in lexicographic order, so that each of them is in one row alone. The atoms of a row
have truth values, and the row consists of the truth values of its columns under them, the last of
which is that of the formula. A partial table has the same cells for the atoms and nothing in the
others. -/
theorem rows_of_truthTable (f : Formula) :
    (f.truthTable false).length = Nat.pow 2 f.tableAtoms.length ∧
      (∀ row ∈ f.truthTable false, row.length = f.tableHeaders.length) ∧
      (∃ values : List (List Bool), values.Pairwise TruthFirst ∧
        (∀ bs, bs ∈ values ↔ bs.length = f.tableAtoms.length) ∧
        (f.truthTable false).map (List.take f.tableAtoms.length) = values.map cells) ∧
      (∀ bs, bs.length = f.tableAtoms.length →
        ∃! j : Nat, ((f.truthTable false)[j]?).map (List.take f.tableAtoms.length) = some (cells bs)) ∧
      (∀ row ∈ f.truthTable false, ∃ v : String → Bool,
        row.take f.tableAtoms.length = cells (f.tableAtoms.map fun g => v g.canonical)) ∧
      (∀ row ∈ f.truthTable false, ∀ v : String → Bool,
        row.take f.tableAtoms.length = cells (f.tableAtoms.map fun g => v g.canonical) →
          row = cells (f.tableColumns.map (truth v)) ∧
          row.getLast? = some (some (.ofBool (f.truth v)))) ∧
      f.truthTable true = (f.truthTable false).map fun row =>
        row.take f.tableAtoms.length ++
          List.replicate (row.length - f.tableAtoms.length) none := by
  refine ⟨?_, ?_, ⟨_, pairwise_rowValues _, fun bs => mem_rowValues, map_take_truthTable f⟩,
    fun bs => existsUnique_row, fun row => exists_truth_of_row, ?_, truthTable_true f⟩
  · rw [truthTable, List.length_map, List.length_range]
    rfl
  · intro row hrow
    obtain ⟨a, -, rfl⟩ := exists_assignment_of_row hrow
    rw [tableHeaders, List.length_map, List.length_map]
  · intro row hrow v hatoms
    have hcells := row_eq_cells hrow hatoms
    refine ⟨hcells, ?_⟩
    rw [hcells, cells, List.getLast?_map, List.getLast?_map, getLast?_tableColumns]
    rfl

end NaturalDeduction.Formula
