import NaturalDeduction.Proofs.TruthTable

/-!
# Subformulas and their places

A place in a formula is a path: the numbers of the operands to go down to, from the outside to the
inside. What stands there occurs in the formula (`Formula.OccursAt`); with `outside`, the path must
not go below a quantifier. Places are ordered as lists of numbers are, so that a formula comes
before its operands and the left operand, with all that is in it, before the right one.

`Formula.subformulas` lists what occurs, each formula once and in the order of the first places
(`Formula.listsOccurrences_subformulas`). The proof goes through the list of all occurrences with
their places (`Formula.placed`), in which the places increase (`Formula.pairwise_placed`). From it,
the first formula of each group is kept, and an item that is kept was met before any item with the
key of a later one (`exists_split_of_keepFirst`).
-/

namespace NaturalDeduction

/-- Items are kept in the order in which their keys are first met: one that is kept stands at a
place up to which the key of a later one has not been met. -/
theorem exists_split_of_keepFirst {α κ : Type} [BEq κ] [LawfulBEq κ] (key : α → κ) (seen : List κ)
    (xs : List α) :
    (keepFirst key seen xs).Pairwise fun x y =>
      ∃ before after, xs = before ++ x :: after ∧ ∀ z ∈ before ++ [x], key z ≠ key y := by
  induction xs generalizing seen with
  | nil => exact .nil
  | cons w xs ih =>
    -- An item in front does no harm if it does not have the key of the later one.
    have extend : ∀ {x y : α}, key w ≠ key y →
        (∃ before after, xs = before ++ x :: after ∧ ∀ z ∈ before ++ [x], key z ≠ key y) →
          ∃ before after, w :: xs = before ++ x :: after ∧ ∀ z ∈ before ++ [x], key z ≠ key y := by
      rintro x y hw ⟨before, after, rfl, hbefore⟩
      exact ⟨w :: before, after, rfl, List.forall_mem_cons.2 ⟨hw, hbefore⟩⟩
    by_cases hw : key w ∈ seen
    · rw [keepFirst_cons_of_mem hw]
      refine (ih seen).imp_of_mem ?_
      intro x y _ hy h
      refine extend ?_ h
      intro heq
      exact (mem_of_mem_keepFirst hy).2 (heq ▸ hw)
    · rw [keepFirst_cons_of_not_mem hw, List.pairwise_cons]
      have hne : ∀ y ∈ keepFirst key (key w :: seen) xs, key w ≠ key y := by
        intro y hy heq
        exact (mem_of_mem_keepFirst hy).2 (heq ▸ List.mem_cons_self)
      constructor
      · intro y hy
        refine ⟨[], xs, rfl, ?_⟩
        intro z hz
        rw [List.mem_singleton.1 hz]
        exact hne y hy
      · refine (ih _).imp_of_mem ?_
        intro x y _ hy h
        exact extend (hne y hy) h

namespace Formula

/-! ## Places -/

/-- A formula occurs in another one at a place, which is the path down to it. With `outside` the
path does not go into the scope of a quantifier. -/
inductive OccursAt (outside : Bool) : Formula → List Nat → Formula → Prop
  /-- The whole formula. -/
  | here (f : Formula) : OccursAt outside f [] f
  /-- Something in an operand. -/
  | inner {f g h : Formula} {i : Nat} {path : List Nat} (hopen : (outside && f.isQuantified) = false)
      (hi : f.operands[i]? = some g) (hg : OccursAt outside g path h) :
      OccursAt outside f (i :: path) h

/-- What occurs in something that occurs does so at the end of both paths, one after the other. -/
theorem OccursAt.trans {outside : Bool} {f g h : Formula} {path path' : List Nat}
    (hg : OccursAt outside f path g) (hh : OccursAt outside g path' h) :
    OccursAt outside f (path ++ path') h := by
  induction hg with
  | here f => exact hh
  | inner hopen hi _ ih => exact .inner hopen hi (ih hh)

/-- Operands of what occurs occur, unless they are in the scope of a quantifier and this is left
out. -/
theorem OccursAt.operand {outside : Bool} {f g h : Formula} {path : List Nat}
    (hg : OccursAt outside f path g) (hopen : (outside && g.isQuantified) = false)
    (hh : h ∈ g.operands) : ∃ path', OccursAt outside f path' h := by
  obtain ⟨i, hi⟩ := List.mem_iff_getElem?.1 hh
  exact ⟨path ++ [i], hg.trans (.inner hopen hi (.here h))⟩

/-! ## All occurrences with their places -/

/-- The place seen from one operator further up. -/
def stepUp (i : Nat) (occurrence : List Nat × Formula) : List Nat × Formula :=
  (i :: occurrence.1, occurrence.2)

/-- The subformulas with their places, in order. -/
def placed (outside : Bool) : Formula → List (List Nat × Formula)
  | f@(atom _) => [([], f)]
  | f@(predicate _ _ _) => [([], f)]
  | f@(not g) => ([], f) :: (g.placed outside).map (stepUp 0)
  | f@(binary _ l r) =>
    ([], f) :: ((l.placed outside).map (stepUp 0) ++ (r.placed outside).map (stepUp 1))
  | f@(quantified _ _ g) =>
    if outside then [([], f)] else ([], f) :: (g.placed outside).map (stepUp 0)

variable {outside : Bool} {f g : Formula}

/-- One operator further up, the subformulas are the same. -/
theorem map_snd_stepUp (i : Nat) (occurrences : List (List Nat × Formula)) :
    (occurrences.map (stepUp i)).map Prod.snd = occurrences.map Prod.snd := by
  rw [List.map_map]
  rfl

/-- Without their places, the subformulas with places are the occurrences. -/
theorem map_snd_placed (outside : Bool) (f : Formula) :
    (f.placed outside).map Prod.snd = f.occurrences outside := by
  induction f with
  | atom a => rfl
  | predicate P t ts => rfl
  | not f ih => rw [placed, List.map_cons, map_snd_stepUp, ih, occurrences]
  | binary op l r ihl ihr =>
    rw [placed, List.map_cons, List.map_append, map_snd_stepUp, map_snd_stepUp, ihl, ihr,
      occurrences]
  | quantified q v f ih =>
    rw [placed, occurrences]
    split
    · rfl
    · rw [List.map_cons, map_snd_stepUp, ih]

/-- One operator further up, a place begins with the side that it is on. -/
theorem mem_map_stepUp {i : Nat} {occurrences : List (List Nat × Formula)} {path : List Nat} :
    (path, g) ∈ occurrences.map (stepUp i) ↔
      ∃ path', path = i :: path' ∧ (path', g) ∈ occurrences := by
  constructor
  · intro h
    obtain ⟨⟨path', g'⟩, hmem, heq⟩ := List.mem_map.1 h
    cases heq
    exact ⟨path', rfl, hmem⟩
  · rintro ⟨path', rfl, hmem⟩
    exact List.mem_map.2 ⟨(path', g), hmem, rfl⟩

/-- At the empty path is the formula itself, and nothing else. -/
theorem nil_mem_placed : ([], g) ∈ f.placed outside ↔ g = f := by
  have habove : ∀ {i : Nat} {occurrences : List (List Nat × Formula)},
      ([], g) ∉ occurrences.map (stepUp i) := by
    intro i occurrences h
    obtain ⟨path', heq, -⟩ := mem_map_stepUp.1 h
    cases heq
  cases f with
  | atom a => simp [placed]
  | predicate P t ts => simp [placed]
  | not f => simp [placed, habove]
  | binary op l r => simp [placed, habove]
  | quantified q v f => cases outside <;> simp [placed, habove]

/-- Below an operator stands what its operands have, in the operand that the path names. -/
theorem cons_mem_placed {i : Nat} {path : List Nat} :
    (i :: path, g) ∈ f.placed outside ↔
      (outside && f.isQuantified) = false ∧
        ∃ h, f.operands[i]? = some h ∧ (path, g) ∈ h.placed outside := by
  have hunary : ∀ {h : Formula}, (∃ k, [h][i]? = some k ∧ (path, g) ∈ k.placed outside) ↔
      i = 0 ∧ (path, g) ∈ h.placed outside := by
    intro h
    cases i <;> simp
  cases f with
  | atom a => simp [placed, operands]
  | predicate P t ts => simp [placed, operands]
  | not f => simp [placed, operands, isQuantified, mem_map_stepUp, hunary]
  | binary op l r =>
    rcases i with _ | _ | i <;> simp [placed, operands, isQuantified, mem_map_stepUp]
  | quantified q v f =>
    cases outside <;> simp [placed, operands, isQuantified, mem_map_stepUp, hunary]

/-- The places that are listed are those where a subformula occurs. -/
theorem mem_placed {path : List Nat} :
    (path, g) ∈ f.placed outside ↔ OccursAt outside f path g := by
  induction path generalizing f with
  | nil =>
    rw [nil_mem_placed]
    constructor
    · rintro rfl
      exact .here g
    · intro h
      cases h
      rfl
  | cons i path ih =>
    rw [cons_mem_placed]
    constructor
    · rintro ⟨hopen, h, hi, hmem⟩
      exact .inner hopen hi (ih.1 hmem)
    · intro h
      cases h with
      | inner hopen hi hg => exact ⟨hopen, _, hi, ih.2 hg⟩

/-- The subformulas that are listed are those that occur somewhere. -/
theorem mem_occurrences_iff : g ∈ f.occurrences outside ↔ ∃ path, OccursAt outside f path g := by
  rw [← map_snd_placed, List.mem_map]
  constructor
  · rintro ⟨⟨path, g'⟩, hmem, rfl⟩
    exact ⟨path, mem_placed.1 hmem⟩
  · rintro ⟨path, h⟩
    exact ⟨(path, g), mem_placed.2 h, rfl⟩

/-- Places stay in order one operator further up. -/
theorem pairwise_stepUp {i : Nat} {occurrences : List (List Nat × Formula)}
    (h : occurrences.Pairwise fun x y => x.1 < y.1) :
    (occurrences.map (stepUp i)).Pairwise fun x y => x.1 < y.1 := by
  rw [List.pairwise_map]
  refine h.imp ?_
  intro x y hlt
  exact List.cons_lt_cons_iff.2 (.inr ⟨rfl, hlt⟩)

/-- The whole formula comes before everything below its operator. -/
theorem nil_lt_stepUp {i : Nat} {occurrences : List (List Nat × Formula)} :
    ∀ x ∈ occurrences.map (stepUp i), [] < x.1 := by
  intro x hx
  obtain ⟨y, -, rfl⟩ := List.mem_map.1 hx
  exact List.nil_lt_cons _ _

/-- **Places increase along the list**: a formula comes before its operands, and a left operand with
all that is in it before the right one. -/
theorem pairwise_placed (outside : Bool) (f : Formula) :
    (f.placed outside).Pairwise fun x y => x.1 < y.1 := by
  induction f with
  | atom a => exact List.pairwise_singleton _ _
  | predicate P t ts => exact List.pairwise_singleton _ _
  | not f ih => exact List.pairwise_cons.2 ⟨nil_lt_stepUp, pairwise_stepUp ih⟩
  | binary op l r ihl ihr =>
    refine List.pairwise_cons.2 ⟨?_, ?_⟩
    · intro x hx
      rcases List.mem_append.1 hx with hx | hx
      · exact nil_lt_stepUp x hx
      · exact nil_lt_stepUp x hx
    · refine List.pairwise_append.2 ⟨pairwise_stepUp ihl, pairwise_stepUp ihr, ?_⟩
      intro x hx y hy
      obtain ⟨x', -, rfl⟩ := List.mem_map.1 hx
      obtain ⟨y', -, rfl⟩ := List.mem_map.1 hy
      exact List.cons_lt_cons_iff.2 (.inl Nat.zero_lt_one)
  | quantified q v f ih =>
    rw [placed]
    split
    · exact List.pairwise_singleton _ _
    · exact List.pairwise_cons.2 ⟨nil_lt_stepUp, pairwise_stepUp ih⟩

/-! ## Each formula once -/

/-- A list of formulas gives what occurs in a formula: each once, up to the way in which letters are
grouped, and in the order of their first places. -/
structure ListsOccurrences (outside : Bool) (f : Formula) (gs : List Formula) : Prop where
  /-- What is listed occurs. -/
  occurs : ∀ g ∈ gs, ∃ path, OccursAt outside f path g
  /-- What occurs is listed. -/
  complete : ∀ path g, OccursAt outside f path g → ∃ g' ∈ gs, g'.same g = true
  /-- Nothing is listed twice. -/
  distinct : gs.Pairwise fun g h => g.same h = false
  /-- What is listed first has a place before all places of what is listed later. -/
  ordered : gs.Pairwise fun g h => ∃ path, OccursAt outside f path g ∧
    ∀ path' h', OccursAt outside f path' h' → h'.same h = true → path < path'

/-- No two of the subformulas that are kept are the same. -/
theorem pairwise_subformulas (outside : Bool) (f : Formula) :
    (f.subformulas outside).Pairwise fun g h => g.same h = false := by
  refine (pairwise_keepFirst canonical [] _).imp ?_
  intro g h hne
  exact Bool.eq_false_iff.2 fun hsame => hne (canonical_inj.2 hsame)

/-- **The subformulas are what occurs, each once, in the order of first places.** -/
theorem listsOccurrences_subformulas (outside : Bool) (f : Formula) :
    ListsOccurrences outside f (f.subformulas outside) where
  occurs := by
    intro g hg
    exact mem_occurrences_iff.1 (mem_occurrences_of_mem_subformulas hg)
  complete := by
    intro path g hg
    obtain ⟨g', hg', hcanonical⟩ := exists_mem_subformulas (mem_occurrences_iff.2 ⟨path, hg⟩)
    exact ⟨g', hg', canonical_inj.1 hcanonical⟩
  distinct := pairwise_subformulas outside f
  ordered := by
    refine (exists_split_of_keepFirst canonical [] (f.occurrences outside)).imp ?_
    rintro g h ⟨before, after, hsplit, hnot⟩
    -- The same split of the list with places.
    rw [← map_snd_placed] at hsplit
    obtain ⟨placedBefore, rest, hplaced, rfl, hrest⟩ := List.map_eq_append_iff.1 hsplit
    obtain ⟨⟨path, g'⟩, placedAfter, rfl, rfl, -⟩ := List.map_eq_cons_iff.1 hrest
    refine ⟨path, mem_placed.1 (hplaced ▸ List.mem_append_right _ List.mem_cons_self), ?_⟩
    intro path' h' hh' hsame
    have hcanonical := canonical_inj.2 hsame
    have hmem := mem_placed.2 hh'
    have hincreasing := pairwise_placed outside f
    rw [hplaced] at hmem hincreasing
    rw [List.forall_mem_append] at hnot
    rcases List.mem_append.1 hmem with hbefore | hrest
    · exact absurd hcanonical (hnot.1 h' (List.mem_map_of_mem (f := Prod.snd) hbefore))
    · rcases List.mem_cons.1 hrest with heq | hafter
      · cases heq
        exact absurd hcanonical (hnot.2 _ List.mem_cons_self)
      · have hlater := (List.pairwise_append.1 hincreasing).2.1
        exact (List.pairwise_cons.1 hlater).1 _ hafter

end Formula

end NaturalDeduction
