import NaturalDeduction.Proofs.Outcome
import NaturalDeduction.Proofs.RoundTrip
import NaturalDeduction.TruthTable

/-!
# Columns and rows of truth tables

Each row of a truth table is the list of the values of the columns under one assignment
(`Formula.truthTable_eq_map`). Two facts make the table complete: the last column is the formula
itself (`Formula.getLast?_tableColumns`), and every choice of truth values for the atoms is a row
(`Formula.exists_tableRow`).

The first holds because what occurs in a formula is shorter than the formula, and the columns stand
in the order of their lengths. For the second, the rows of a table with one atom more are the old
rows twice, first below truth and then below falsity (`Formula.tableRow_of_lt`,
`Formula.tableRow_rowCount_add`).
-/

namespace NaturalDeduction

/-! ## The first of each group -/

section KeepFirst

variable {α κ : Type} [BEq κ] [LawfulBEq κ] {key : α → κ} {seen : List κ} {xs : List α} {x : α}

/-- A member whose key has been seen is left out. -/
theorem keepFirst_cons_of_mem (h : key x ∈ seen) :
    keepFirst key seen (x :: xs) = keepFirst key seen xs := by
  rw [keepFirst, if_pos (List.contains_iff_mem.2 h)]

/-- A member whose key is new is kept, and its key has been seen from then on. -/
theorem keepFirst_cons_of_not_mem (h : key x ∉ seen) :
    keepFirst key seen (x :: xs) = x :: keepFirst key (key x :: seen) xs := by
  rw [keepFirst, if_neg (mt List.contains_iff_mem.1 h)]

/-- What is kept was there, and its key had not been met. -/
theorem mem_of_mem_keepFirst (h : x ∈ keepFirst key seen xs) : x ∈ xs ∧ key x ∉ seen := by
  induction xs generalizing seen with
  | nil => cases h
  | cons y ys ih =>
    by_cases hy : key y ∈ seen
    · rw [keepFirst_cons_of_mem hy] at h
      obtain ⟨hmem, hkey⟩ := ih h
      exact ⟨List.mem_cons_of_mem _ hmem, hkey⟩
    · rw [keepFirst_cons_of_not_mem hy] at h
      rcases List.mem_cons.1 h with rfl | hrest
      · exact ⟨List.mem_cons_self, hy⟩
      · obtain ⟨hmem, hkey⟩ := ih hrest
        exact ⟨List.mem_cons_of_mem _ hmem, fun hseen => hkey (List.mem_cons_of_mem _ hseen)⟩

/-- Of two items that are kept the keys are different. -/
theorem pairwise_keepFirst (key : α → κ) (seen : List κ) (xs : List α) :
    (keepFirst key seen xs).Pairwise fun x y => key x ≠ key y := by
  induction xs generalizing seen with
  | nil => exact .nil
  | cons x xs ih =>
    by_cases hx : key x ∈ seen
    · rw [keepFirst_cons_of_mem hx]
      exact ih seen
    · rw [keepFirst_cons_of_not_mem hx, List.pairwise_cons]
      refine ⟨fun y hy heq => ?_, ih _⟩
      exact (mem_of_mem_keepFirst hy).2 (heq ▸ List.mem_cons_self)

/-- No key is lost. -/
theorem exists_mem_keepFirst (hx : x ∈ xs) (hkey : key x ∉ seen) :
    ∃ y ∈ keepFirst key seen xs, key y = key x := by
  induction xs generalizing seen with
  | nil => cases hx
  | cons y ys ih =>
    by_cases hy : key y ∈ seen
    · rw [keepFirst_cons_of_mem hy]
      rcases List.mem_cons.1 hx with rfl | hrest
      · exact absurd hy hkey
      · exact ih hrest hkey
    · rw [keepFirst_cons_of_not_mem hy]
      by_cases heq : key y = key x
      · exact ⟨y, List.mem_cons_self, heq⟩
      · have hrest : x ∈ ys := by
          rcases List.mem_cons.1 hx with rfl | hrest
          · exact absurd rfl heq
          · exact hrest
        have hnew : key x ∉ key y :: seen := by
          rw [List.mem_cons, not_or]
          exact ⟨fun h => heq h.symm, hkey⟩
        obtain ⟨z, hz, hzx⟩ := ih hrest hnew
        exact ⟨z, List.mem_cons_of_mem _ hz, hzx⟩

end KeepFirst

namespace Formula

/-! ## Subformulas -/

/-- Formulas with the same canonical form are the same, and no others. -/
theorem canonical_inj {f g : Formula} : f.canonical = g.canonical ↔ f.same g = true := by
  rw [same_iff, canonical, canonical, String.ofList_inj]

/-- Formulas with the same canonical form are equally long. -/
theorem canonicalLength_of_canonical_eq {f g : Formula} (h : f.canonical = g.canonical) :
    f.canonicalLength = g.canonicalLength := by
  rw [← length_canonical, h, length_canonical]

/-- An operand is shorter than the formula. -/
theorem canonicalLength_lt_of_mem_operands {f g : Formula} (h : g ∈ f.operands) :
    g.canonicalLength < f.canonicalLength := by
  cases f with
  | atom a => cases h
  | predicate P t ts => cases h
  | not f =>
    cases List.mem_singleton.1 h
    rw [canonicalLength]
    split <;> omega
  | binary op l r =>
    have hsign := op.symbol_length_pos
    rw [canonicalLength]
    rcases List.mem_pair.1 h with rfl | rfl
    · split <;> omega
    · split <;> split <;> omega
  | quantified q v f =>
    cases List.mem_singleton.1 h
    rw [canonicalLength]
    omega

/-- The formula itself is one of its occurrences. -/
theorem mem_occurrences_self (outside : Bool) (f : Formula) : f ∈ f.occurrences outside := by
  cases f with
  | quantified q v f => cases outside <;> exact List.mem_cons_self
  | _ => exact List.mem_cons_self

/-- What occurs in a formula is the formula itself or shorter. -/
theorem eq_or_canonicalLength_lt_of_mem_occurrences {outside : Bool} {f g : Formula}
    (h : g ∈ f.occurrences outside) : g = f ∨ g.canonicalLength < f.canonicalLength := by
  have below : ∀ {f f' : Formula}, f' ∈ f.operands →
      g = f' ∨ g.canonicalLength < f'.canonicalLength →
        g.canonicalLength < f.canonicalLength := by
    intro f f' hoperand hg
    have hlt := canonicalLength_lt_of_mem_operands hoperand
    rcases hg with rfl | hg
    · exact hlt
    · exact Nat.lt_trans hg hlt
  induction f with
  | atom a => exact .inl (List.mem_singleton.1 h)
  | predicate P t ts => exact .inl (List.mem_singleton.1 h)
  | not f ih =>
    rcases List.mem_cons.1 h with rfl | h
    · exact .inl rfl
    · exact .inr (below List.mem_cons_self (ih h))
  | binary op l r ihl ihr =>
    rcases List.mem_cons.1 h with rfl | h
    · exact .inl rfl
    · rcases List.mem_append.1 h with h | h
      · exact .inr (below (List.mem_cons_self (l := [r])) (ihl h))
      · exact .inr (below (List.mem_cons_of_mem l List.mem_cons_self) (ihr h))
  | quantified q v f ih =>
    rw [occurrences] at h
    split at h
    · exact .inl (List.mem_singleton.1 h)
    · rcases List.mem_cons.1 h with rfl | h
      · exact .inl rfl
      · exact .inr (below List.mem_cons_self (ih h))

/-- The subformulas that are kept are occurrences. -/
theorem mem_occurrences_of_mem_subformulas {outside : Bool} {f g : Formula}
    (h : g ∈ f.subformulas outside) : g ∈ f.occurrences outside :=
  (mem_of_mem_keepFirst h).1

/-- Every formula that occurs is among the subformulas, up to the way in which letters are grouped.
-/
theorem exists_mem_subformulas {outside : Bool} {f g : Formula} (h : g ∈ f.occurrences outside) :
    ∃ g' ∈ f.subformulas outside, g'.canonical = g.canonical :=
  exists_mem_keepFirst h List.not_mem_nil

/-- The formula itself is the first to be kept. -/
theorem mem_subformulas_self (outside : Bool) (f : Formula) : f ∈ f.subformulas outside := by
  obtain ⟨g, hg, hcanonical⟩ := exists_mem_subformulas (mem_occurrences_self outside f)
  have hlength := canonicalLength_of_canonical_eq hcanonical
  rcases eq_or_canonicalLength_lt_of_mem_occurrences (mem_occurrences_of_mem_subformulas hg)
    with rfl | hlt
  · exact hg
  · omega

/-! ## Atoms -/

/-- Cutting terms leaves the main operator as it is. -/
@[simp] theorem isQuantified_cutTerms (f : Formula) : f.cutTerms.isQuantified = f.isQuantified := by
  cases f <;> rfl

/-- Formulas with the same canonical form are both atoms or both not. -/
theorem isTableAtom_of_canonical_eq {f g : Formula} (h : f.canonical = g.canonical) :
    f.isTableAtom = g.isTableAtom := by
  have hcut := same_iff_cutTerms_eq.1 (canonical_inj.1 h)
  rw [isTableAtom, isTableAtom, ← isAtomic_cutTerms f, ← isQuantified_cutTerms f, hcut,
    isAtomic_cutTerms, isQuantified_cutTerms]

/-- The atoms of the table are the subformulas that a table takes for atoms. -/
theorem mem_tableAtoms {f g : Formula} :
    g ∈ f.tableAtoms ↔ g ∈ f.subformulas true ∧ g.isTableAtom = true := by
  rw [tableAtoms, List.mem_mergeSort, List.mem_filter]

/-- Every atom that occurs outside the scopes of quantifiers is in the table. -/
theorem exists_mem_tableAtoms {f g : Formula} (hg : g ∈ f.occurrences true)
    (hatom : g.isTableAtom = true) : ∃ g' ∈ f.tableAtoms, g'.canonical = g.canonical := by
  obtain ⟨g', hg', hcanonical⟩ := exists_mem_subformulas hg
  refine ⟨g', mem_tableAtoms.2 ⟨hg', ?_⟩, hcanonical⟩
  rw [isTableAtom_of_canonical_eq hcanonical, hatom]

/-- No canonical form stands at the head of two columns of atoms. -/
theorem nodup_tableAtoms (f : Formula) : (f.tableAtoms.map canonical).Nodup := by
  have hperm : (f.tableAtoms.map canonical).Perm
      (((f.subformulas true).filter isTableAtom).map canonical) :=
    (List.mergeSort_perm _ _).map canonical
  rw [hperm.nodup_iff]
  exact List.pairwise_map.2 ((pairwise_keepFirst canonical [] _).filter _)

end Formula

/-! ## Columns -/

/-- What is greatest in an order comes last when a list is put into that order. -/
theorem getLast?_mergeSort {α : Type} {le : α → α → Bool}
    (htrans : ∀ a b c, le a b = true → le b c = true → le a c = true)
    (htotal : ∀ a b, (le a b || le b a) = true) {l : List α} {x : α} (hx : x ∈ l)
    (hgreatest : ∀ y ∈ l, le x y = true → y = x) : (l.mergeSort le).getLast? = some x := by
  have hmem : x ∈ l.mergeSort le := List.mem_mergeSort.2 hx
  rcases hlast : (l.mergeSort le).getLast? with _ | z
  · rw [List.getLast?_eq_none_iff] at hlast
    rw [hlast] at hmem
    cases hmem
  · obtain ⟨ys, hys⟩ := List.getLast?_eq_some_iff.1 hlast
    have hz : z ∈ l := List.mem_mergeSort.1 (List.mem_of_getLast? hlast)
    have hsorted := List.pairwise_mergeSort htrans htotal l
    rw [hys, List.pairwise_append] at hsorted
    rw [hys] at hmem
    rcases List.mem_append.1 hmem with hbefore | hself
    · rw [hgreatest z hz (hsorted.2.2 x hbefore z List.mem_cons_self)]
    · rw [List.mem_singleton.1 hself]

namespace Formula

/-- Columns are ordered by length, and those of one length by their canonical forms. -/
theorem lengthLe_iff {f g : Formula} : f.lengthLe g = true ↔
    f.canonicalLength < g.canonicalLength ∨
      f.canonicalLength = g.canonicalLength ∧ f.canonical ≤ g.canonical := by
  simp [lengthLe, canonicalLe]

/-- The order of columns is transitive. -/
theorem lengthLe_trans (f g h : Formula) (hfg : f.lengthLe g = true) (hgh : g.lengthLe h = true) :
    f.lengthLe h = true := by
  rw [lengthLe_iff] at *
  rcases hfg with hfg | ⟨hfg, hle⟩
  · rcases hgh with hgh | ⟨hgh, -⟩
    · exact .inl (Nat.lt_trans hfg hgh)
    · exact .inl (hgh ▸ hfg)
  · rcases hgh with hgh | ⟨hgh, hle'⟩
    · exact .inl (hfg ▸ hgh)
    · exact .inr ⟨hfg.trans hgh, String.le_trans hle hle'⟩

/-- The order of columns is total. -/
theorem lengthLe_total (f g : Formula) : (f.lengthLe g || g.lengthLe f) = true := by
  rw [Bool.or_eq_true, lengthLe_iff, lengthLe_iff]
  rcases Nat.lt_trichotomy f.canonicalLength g.canonicalLength with hlt | heq | hgt
  · exact .inl (.inl hlt)
  · rcases String.le_total f.canonical g.canonical with hle | hle
    · exact .inl (.inr ⟨heq, hle⟩)
    · exact .inr (.inr ⟨heq.symm, hle⟩)
  · exact .inr (.inl hgt)

/-- Outside of quantifiers, an atom of the table has no occurrence but itself. -/
theorem occurrences_of_isTableAtom {f : Formula} (h : f.isTableAtom = true) :
    f.occurrences true = [f] := by
  cases f with
  | atom a => rfl
  | predicate P t ts => rfl
  | quantified q v f => rfl
  | not f => cases h
  | binary op l r => cases h

/-- An atom is the only column of its table. -/
theorem tableColumns_of_isTableAtom {f : Formula} (h : f.isTableAtom = true) :
    f.tableColumns = [f] := by
  have hsubformulas : f.subformulas true = [f] := by
    rw [subformulas, occurrences_of_isTableAtom h, keepFirst_cons_of_not_mem List.not_mem_nil]
    rfl
  have hatoms : f.tableAtoms = [f] := by
    rw [tableAtoms, hsubformulas, List.filter_cons_of_pos h, List.filter_nil,
      List.mergeSort_singleton]
  simp [tableColumns, hatoms, hsubformulas]

/-- **The last column is the formula itself.** -/
theorem getLast?_tableColumns (f : Formula) : f.tableColumns.getLast? = some f := by
  cases hatom : f.isTableAtom with
  | true =>
    rw [tableColumns_of_isTableAtom hatom]
    rfl
  | false =>
    -- The formula is none of the atoms, so it stands among the others, and all of them are shorter.
    have hother : (!f.tableAtoms.any f.same) = true := by
      rw [Bool.not_eq_true', List.any_eq_false]
      intro g hg hsame
      have heq := isTableAtom_of_canonical_eq (canonical_inj.2 hsame)
      rw [hatom, (mem_tableAtoms.1 hg).2] at heq
      cases heq
    rw [tableColumns, List.getLast?_append, getLast?_mergeSort lengthLe_trans lengthLe_total
      (x := f)]
    · rfl
    · exact List.mem_filter.2 ⟨mem_subformulas_self true f, hother⟩
    · intro g hg hle
      have hmem := mem_occurrences_of_mem_subformulas (List.mem_filter.1 hg).1
      rcases eq_or_canonicalLength_lt_of_mem_occurrences hmem with heq | hlt
      · exact heq
      · rcases lengthLe_iff.1 hle with hgt | ⟨heq, -⟩
        · omega
        · omega

/-! ## Rows -/

/-- A row has a cell for each atom. -/
theorem length_tableRow (n j : Nat) : (tableRow n j).length = n := by
  rw [tableRow, List.length_map, List.length_range]

/-- There is at least one row. -/
theorem rowCount_pos (n : Nat) : 0 < rowCount n :=
  Nat.pow_pos Nat.two_pos

/-- Below the first atom, blocks of rows are those of a table with one atom less. -/
theorem tableCell_succ (n i j : Nat) : tableCell (n + 1) (i + 1) j = tableCell n i j := by
  have hsegment : rowCount (n + 1) / rowCount (i + 1) = rowCount n / rowCount i := by
    rw [rowCount_succ, rowCount_succ, Nat.mul_div_mul_right _ _ Nat.two_pos]
  simp only [tableCell, hsegment]

/-- The second half of the rows repeats the first. -/
theorem tableCell_rowCount_add {n i : Nat} (hi : i ≤ n) (j : Nat) :
    tableCell n i (rowCount n + j) = tableCell n i j := by
  -- The length of a block divides the number of rows, so whole blocks are skipped.
  have hdvd : rowCount n / rowCount i ∣ rowCount n :=
    Nat.div_dvd_of_dvd (Nat.pow_dvd_pow 2 hi)
  obtain ⟨blocks, hblocks⟩ := hdvd
  have hmod : (rowCount n + j) % (rowCount n / rowCount i) = j % (rowCount n / rowCount i) := by
    nth_rewrite 1 [hblocks]
    rw [Nat.mul_add_mod]
  simp only [tableCell, hmod]

/-- The first atom is true in the first half of the rows. -/
theorem tableCell_zero {n j : Nat} (hj : j < rowCount (n + 1)) :
    tableCell (n + 1) 0 j = decide (j < rowCount n) := by
  have hsegment : rowCount (n + 1) / rowCount 0 = rowCount (n + 1) := Nat.div_one _
  have hhalf : rowCount (n + 1) / 2 = rowCount n := by
    rw [rowCount_succ, Nat.mul_div_cancel _ Nat.two_pos]
  simp only [tableCell, hsegment, hhalf, Nat.mod_eq_of_lt hj]

/-- Behind the cell of the first atom stand the cells of the others. -/
theorem tableRow_succ (n j : Nat) :
    tableRow (n + 1) j =
      tableCell (n + 1) 0 j :: (List.range n).map fun i => tableCell n i j := by
  rw [tableRow, List.range_succ_eq_map, List.map_cons, List.map_map]
  simp only [Function.comp_def, Nat.succ_eq_add_one, tableCell_succ]

/-- In the first half of the rows the first atom is true. -/
theorem tableRow_of_lt {n j : Nat} (hj : j < rowCount n) :
    tableRow (n + 1) j = true :: tableRow n j := by
  have hlt : j < rowCount (n + 1) := by
    rw [rowCount_succ]
    omega
  rw [tableRow_succ, tableCell_zero hlt, decide_eq_true hj]
  rfl

/-- In the second half of the rows the first atom is false. -/
theorem tableRow_rowCount_add {n j : Nat} (hj : j < rowCount n) :
    tableRow (n + 1) (rowCount n + j) = false :: tableRow n j := by
  have hlt : rowCount n + j < rowCount (n + 1) := by
    rw [rowCount_succ]
    omega
  have hcells : (List.range n).map (fun i => tableCell n i (rowCount n + j)) = tableRow n j := by
    refine List.map_congr_left fun i hi => tableCell_rowCount_add ?_ j
    exact Nat.le_of_lt (List.mem_range.1 hi)
  rw [tableRow_succ, tableCell_zero hlt, decide_eq_false (by omega), hcells]

/-- **Every choice of truth values is a row.** -/
theorem exists_tableRow (row : List Bool) :
    ∃ j < rowCount row.length, tableRow row.length j = row := by
  induction row with
  | nil => exact ⟨0, rowCount_pos 0, rfl⟩
  | cons b row ih =>
    obtain ⟨j, hj, hrow⟩ := ih
    rw [List.length_cons, rowCount_succ]
    cases b with
    | true =>
      refine ⟨j, by omega, ?_⟩
      rw [tableRow_of_lt hj, hrow]
    | false =>
      refine ⟨rowCount row.length + j, by omega, ?_⟩
      rw [tableRow_rowCount_add hj, hrow]

/-! ## Cells -/

/-- An atom of the table has the value that is assigned to it. -/
theorem evaluate_of_isTableAtom {f : Formula} (h : f.isTableAtom = true) (a : Assignment) :
    f.evaluate a = a f.canonical := by
  cases f with
  | atom b => rfl
  | predicate P t ts => rfl
  | quantified q v f => rfl
  | not f => cases h
  | binary op l r => cases h

/-- A row assigns its truth values to the atoms, one after the other. -/
theorem map_rowAssignment {atoms : List Formula} (hatoms : (atoms.map canonical).Nodup)
    {row : List Bool} (hlength : row.length = atoms.length) :
    atoms.map (fun g => rowAssignment atoms row g.canonical) = row.map .ofBool := by
  have hkeys : (((atoms.map canonical).zip (row.map Value.bool)).map Prod.fst).Nodup := by
    rw [List.map_fst_zip (by simp [hlength])]
    exact hatoms
  refine List.ext_getElem (by simp [hlength]) fun i hi hi' => ?_
  have hi : i < atoms.length := by simpa using hi
  have hi' : i < row.length := by simpa using hi'
  have hmem : ((atoms[i]).canonical, Value.bool row[i]) ∈
      (atoms.map canonical).zip (row.map Value.bool) := by
    refine List.mem_iff_getElem.2 ⟨i, by simp; omega, ?_⟩
    simp
  have hlookup := lookup_eq_some_of_mem hkeys hmem
  simp [rowAssignment, Assignment.ofTable, hlookup, TruthValue.ofValue]

/-- **Every cell is the value of its column** under the assignment of the row. -/
theorem truthTable_eq_map (f : Formula) :
    f.truthTable false = (List.range (rowCount f.tableAtoms.length)).map fun j =>
      f.tableColumns.map fun g =>
        some (g.evaluate (rowAssignment f.tableAtoms (tableRow f.tableAtoms.length j))) := by
  simp only [truthTable, Bool.false_eq_true, if_false]
  refine List.map_congr_left fun j _ => ?_
  have hrow := map_rowAssignment f.nodup_tableAtoms (length_tableRow f.tableAtoms.length j)
  generalize rowAssignment f.tableAtoms (tableRow f.tableAtoms.length j) = a at hrow ⊢
  -- The cells of the atoms are written down and not evaluated.
  have hatoms : (tableRow f.tableAtoms.length j).map .ofBool = f.tableAtoms.map (evaluate a) := by
    rw [← hrow]
    exact (List.map_congr_left fun g hg => evaluate_of_isTableAtom (mem_tableAtoms.1 hg).2 a).symm
  have hcolumns : f.tableAtoms ++ f.tableColumns.drop f.tableAtoms.length = f.tableColumns := by
    rw [tableColumns, List.drop_left]
  conv_rhs => rw [← hcolumns, List.map_append]
  congr 1
  calc (tableRow f.tableAtoms.length j).map (fun b => some (TruthValue.ofBool b))
      = ((tableRow f.tableAtoms.length j).map .ofBool).map some := by rw [List.map_map]; rfl
    _ = f.tableAtoms.map fun g => some (g.evaluate a) := by rw [hatoms, List.map_map]; rfl

end Formula

end NaturalDeduction
