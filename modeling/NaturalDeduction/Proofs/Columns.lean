import NaturalDeduction.Proofs.Sameness
import NaturalDeduction.Proofs.Subformulas

/-!
# The columns of a truth table

The columns are the subformulas outside the scopes of quantifiers, in another order
(`Formula.tableColumns_perm`): first the atoms of the table by their canonical forms, then the
others by the lengths of these and, among forms of one length, by the forms themselves. Both parts
increase strictly, since no formula is listed twice; `Formula.ColumnLt` is the order of the whole
list (`Formula.pairwise_tableColumns`).

From this order follows that operands come first (`Formula.exists_earlier_column`): an operand is an
atom, and all atoms come before what is not an atom, or it is shorter than the formula. Columns have
different heads, because a formula can be read off its written form whatever the spacing
(`Formula.pretty_inj`).
-/

namespace NaturalDeduction.Formula

variable {f g h : Formula}

/-! ## Strict orders -/

/-- Formulas that are not the same are strictly ordered by their canonical forms. -/
theorem canonical_lt_of_le_of_not_same (hle : g.canonical ≤ h.canonical)
    (hne : g.same h = false) : g.canonical < h.canonical := by
  by_contra hlt
  have heq := String.le_antisymm hle (String.not_lt.1 hlt)
  rw [canonical_inj.1 heq] at hne
  cases hne

/-- Formulas that are different are so in any order. -/
theorem distinct_of_perm {gs hs : List Formula} (hperm : gs.Perm hs)
    (hdistinct : gs.Pairwise fun g h => g.same h = false) :
    hs.Pairwise fun g h => g.same h = false := by
  refine hdistinct.perm hperm ?_
  intro g h hgh
  rw [same_comm, hgh]

/-- A list of different formulas that is put into an order increases strictly. -/
theorem pairwise_mergeSort_of_distinct {le : Formula → Formula → Bool} {gs : List Formula}
    (htrans : ∀ a b c, le a b = true → le b c = true → le a c = true)
    (htotal : ∀ a b, (le a b || le b a) = true)
    (hdistinct : gs.Pairwise fun g h => g.same h = false) :
    (gs.mergeSort le).Pairwise fun g h => le g h = true ∧ g.same h = false := by
  have hsorted := List.pairwise_mergeSort htrans htotal gs
  exact hsorted.and (distinct_of_perm (List.mergeSort_perm gs le).symm hdistinct)

/-! ## The two parts -/

/-- The order of canonical forms is transitive. -/
theorem canonicalLe_trans (f g h : Formula) (hfg : f.canonicalLe g = true)
    (hgh : g.canonicalLe h = true) : f.canonicalLe h = true := by
  rw [canonicalLe, decide_eq_true_eq] at *
  exact String.le_trans hfg hgh

/-- The order of canonical forms is total. -/
theorem canonicalLe_total (f g : Formula) : (f.canonicalLe g || g.canonicalLe f) = true := by
  rw [canonicalLe, canonicalLe, Bool.or_eq_true, decide_eq_true_eq, decide_eq_true_eq]
  exact String.le_total _ _

/-- Atoms come in the order of their canonical forms. -/
theorem pairwise_tableAtoms (f : Formula) :
    f.tableAtoms.Pairwise fun g h => g.canonical < h.canonical := by
  have hdistinct := (pairwise_subformulas true f).filter isTableAtom
  refine (pairwise_mergeSort_of_distinct canonicalLe_trans canonicalLe_total hdistinct).imp ?_
  rintro g h ⟨hle, hne⟩
  exact canonical_lt_of_le_of_not_same (of_decide_eq_true hle) hne

/-- The columns that are not atoms. -/
def tableOthers (f : Formula) : List Formula :=
  ((f.subformulas true).filter fun g => !g.isTableAtom).mergeSort lengthLe

/-- The other columns are those subformulas that are no atoms of the table. -/
theorem mem_tableOthers :
    g ∈ f.tableOthers ↔ g ∈ f.subformulas true ∧ g.isTableAtom = false := by
  rw [tableOthers, List.mem_mergeSort, List.mem_filter, Bool.not_eq_true']

/-- A subformula is the same as an atom of the table exactly if it is one. -/
theorem any_same_tableAtoms (hg : g ∈ f.subformulas true) :
    f.tableAtoms.any g.same = g.isTableAtom := by
  rw [Bool.eq_iff_iff, List.any_eq_true]
  constructor
  · rintro ⟨a, ha, hsame⟩
    rw [isTableAtom_of_canonical_eq (canonical_inj.2 hsame)]
    exact (mem_tableAtoms.1 ha).2
  · intro hatom
    exact ⟨g, mem_tableAtoms.2 ⟨hg, hatom⟩, same_refl g⟩

/-- The atoms come first, and the other columns after them. -/
theorem tableColumns_eq (f : Formula) : f.tableColumns = f.tableAtoms ++ f.tableOthers := by
  have hfilter : (f.subformulas true).filter (fun g => !f.tableAtoms.any g.same) =
      (f.subformulas true).filter fun g => !g.isTableAtom := by
    refine List.filter_congr ?_
    intro g hg
    rw [any_same_tableAtoms hg]
  rw [tableColumns, hfilter, tableOthers]

/-- The order by length and then by canonical form, strictly. -/
def LengthLt (g h : Formula) : Prop :=
  g.canonical.length < h.canonical.length ∨
    g.canonical.length = h.canonical.length ∧ g.canonical < h.canonical

/-- The other columns come by length and then by canonical form. -/
theorem pairwise_tableOthers (f : Formula) : f.tableOthers.Pairwise LengthLt := by
  have hdistinct := (pairwise_subformulas true f).filter fun g => !g.isTableAtom
  refine (pairwise_mergeSort_of_distinct lengthLe_trans lengthLe_total hdistinct).imp ?_
  rintro g h ⟨hle, hne⟩
  rw [LengthLt, length_canonical, length_canonical]
  rcases lengthLe_iff.1 hle with hlt | ⟨heq, hle⟩
  · exact .inl hlt
  · exact .inr ⟨heq, canonical_lt_of_le_of_not_same hle hne⟩

/-! ## All columns -/

/-- **The columns are the subformulas outside the scopes of quantifiers.** -/
theorem tableColumns_perm (f : Formula) : f.tableColumns.Perm (f.subformulas true) := by
  rw [tableColumns_eq]
  have hparts : (f.tableAtoms ++ f.tableOthers).Perm ((f.subformulas true).filter isTableAtom ++
      (f.subformulas true).filter fun g => !g.isTableAtom) :=
    (List.mergeSort_perm _ _).append (List.mergeSort_perm _ _)
  exact hparts.trans (List.filter_append_perm _ _)

/-- The order of the columns: atoms before the others, each kind in its own order. -/
def ColumnLt (g h : Formula) : Prop :=
  if g.isTableAtom then h.isTableAtom = true → g.canonical < h.canonical
  else h.isTableAtom = false ∧ g.LengthLt h

/-- Columns stand in strictly increasing order. -/
theorem pairwise_tableColumns (f : Formula) : f.tableColumns.Pairwise ColumnLt := by
  rw [tableColumns_eq, List.pairwise_append]
  refine ⟨?_, ?_, ?_⟩
  · refine (pairwise_tableAtoms f).imp_of_mem ?_
    intro g h hg _ hlt
    rw [ColumnLt, if_pos (mem_tableAtoms.1 hg).2]
    exact fun _ => hlt
  · refine (pairwise_tableOthers f).imp_of_mem ?_
    intro g h hg hh hlt
    rw [ColumnLt, (mem_tableOthers.1 hg).2]
    exact ⟨(mem_tableOthers.1 hh).2, hlt⟩
  · intro g hg h hh
    rw [ColumnLt, if_pos (mem_tableAtoms.1 hg).2]
    intro hatom
    rw [(mem_tableOthers.1 hh).2] at hatom
    cases hatom

/-- **Operands come first.** -/
theorem exists_earlier_column {i : Nat} (hg : f.tableColumns[i]? = some g)
    (hother : g.isTableAtom = false) (hh : h ∈ g.operands) :
    ∃ j < i, ∃ h' : Formula, f.tableColumns[j]? = some h' ∧ h'.same h = true := by
  -- The operand occurs outside the scopes of quantifiers, because `g` does and is not quantified.
  have hsubformula := (tableColumns_perm f).mem_iff.1 (List.mem_of_getElem? hg)
  have hlists := listsOccurrences_subformulas true f
  obtain ⟨path, hpath⟩ := hlists.occurs g hsubformula
  rw [isTableAtom, Bool.or_eq_false_iff] at hother
  obtain ⟨path', hpath'⟩ := hpath.operand (by rw [hother.2, Bool.and_false]) hh
  obtain ⟨h', hmem, hsame⟩ := hlists.complete path' h hpath'
  obtain ⟨j, hj⟩ := List.mem_iff_getElem?.1 ((tableColumns_perm f).mem_iff.2 hmem)
  refine ⟨j, ?_, h', hj, hsame⟩
  have hshorter : h'.canonicalLength < g.canonicalLength := by
    rw [canonicalLength_of_same hsame]
    exact canonicalLength_lt_of_mem_operands hh
  by_contra hle
  rcases Nat.lt_or_eq_of_le (Nat.not_lt.1 hle) with hlt | rfl
  · -- A column after `g` is not shorter than `g`.
    obtain ⟨hi, hgi⟩ := List.getElem?_eq_some_iff.1 hg
    obtain ⟨hj, hhj⟩ := List.getElem?_eq_some_iff.1 hj
    have hafter := List.pairwise_iff_getElem.1 (pairwise_tableColumns f) i j hi hj hlt
    rw [hgi, hhj, ColumnLt, isTableAtom, hother.1, hother.2] at hafter
    obtain ⟨-, hlonger | ⟨hequal, -⟩⟩ := hafter
    · rw [length_canonical, length_canonical] at hlonger
      omega
    · rw [length_canonical, length_canonical] at hequal
      omega
  · rw [hg] at hj
    cases hj
    omega

/-! ## Heads -/

/-- A formula can be read off its pretty form. -/
theorem pretty_inj (heq : g.pretty = h.pretty) : g.same h = true := by
  rw [pretty, pretty, String.ofList_inj] at heq
  rw [same_iff, ← removeBlanks_chars .wide g, heq, removeBlanks_chars]

/-- No header stands above two columns. -/
theorem nodup_tableHeaders (f : Formula) : f.tableHeaders.Nodup := by
  have hdistinct := distinct_of_perm (tableColumns_perm f).symm (pairwise_subformulas true f)
  refine List.pairwise_map.2 (hdistinct.imp ?_)
  intro g h hne heq
  rw [pretty_inj heq] at hne
  cases hne

/-- **The columns of a truth table are complete, different and in order.** Subformulas are listed
once each, in the order of first places, with and without those in the scopes of quantifiers. The
columns are the latter: first the atoms, with canonical forms that increase, then the others by
length and canonical form. A column that is not an atom comes after its operands, the last one is
the formula itself, and all heads are different. -/
theorem columns_of_truthTable (f : Formula) :
    (∀ outside, ListsOccurrences outside f (f.subformulas outside)) ∧
      f.tableColumns.Perm (f.subformulas true) ∧
      (∀ g, g ∈ f.tableAtoms ↔
        g ∈ f.subformulas true ∧ (g.isAtomic = true ∨ g.isQuantified = true)) ∧
      (∃ others, f.tableColumns = f.tableAtoms ++ others ∧
        f.tableAtoms.Pairwise (fun g h => g.canonical < h.canonical) ∧
        others.Pairwise LengthLt) ∧
      (∀ (i : Nat) (g : Formula), f.tableColumns[i]? = some g → g.isAtomic = false →
        g.isQuantified = false → ∀ h ∈ g.operands, ∃ j < i, ∃ h' : Formula,
          f.tableColumns[j]? = some h' ∧ h'.same h = true) ∧
      f.tableColumns.getLast? = some f ∧
      f.tableHeaders.Nodup := by
  refine ⟨fun outside => listsOccurrences_subformulas outside f, tableColumns_perm f, ?_,
    ⟨_, tableColumns_eq f, pairwise_tableAtoms f, pairwise_tableOthers f⟩, ?_,
    getLast?_tableColumns f, nodup_tableHeaders f⟩
  · intro g
    rw [mem_tableAtoms, isTableAtom, Bool.or_eq_true]
  · intro i g hg hatomic hquantified h hh
    exact exists_earlier_column hg (by rw [isTableAtom, hatomic, hquantified, Bool.or_false]) hh

end NaturalDeduction.Formula
