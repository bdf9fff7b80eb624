import NaturalDeduction.Proofs.Columns
import NaturalDeduction.Proofs.Instances

/-!
# Equality is equality of trees

Two formulas have the same tree, up to the way in which letters were grouped into the terms of a
predicate, if they have the same operators, variables and symbols at the same places and predicates
have the same letters once the text of each term is cut at its commas (`Formula.SameTree`). The
definition speaks about texts of terms and knows nothing of the written forms of formulas.

**Main result** (`Formula.written_eq_iff_sameTree`): this is what every comparison of written forms
comes to, whether the forms are canonical or pretty, keys of a set or names in an assignment. One
half is that the grammar is unambiguous, which `Formula.same_iff_cutTerms_eq` has for formulas with
all terms cut. The other half relates cutting a term to cutting its text (`Term.pieces_eq`).
-/

namespace NaturalDeduction

/-! ## Terms -/

/-- The text of a term, cut at its commas. -/
def Term.pieces (t : Term) : List (List Char) :=
  t.chars.splitOn ','

/-- Cutting written letters at the commas gives the letters back. -/
theorem splitOn_writeLetters (a : Letter) (as : List Letter) :
    (writeLetters a as).splitOn ',' = (a :: as).map fun b => [b.char] := by
  have hplain : ∀ b : Letter, ∀ c ∈ [b.char], (c == ',') = false := by
    intro b c hc
    rw [List.mem_singleton.1 hc, beq_eq_false_iff_ne]
    exact b.char_ne (by decide)
  induction as generalizing a with
  | nil => exact List.splitOnP_eq_singleton (hplain a)
  | cons b bs ih =>
    rw [List.map_cons, ← ih b]
    exact List.splitOnP_append_cons_of_forall_mem (hplain a) ',' rfl _

/-- Cutting its text cuts a term into its letters. -/
theorem Term.pieces_eq (t : Term) : t.pieces = t.letters.map fun a => [a.char] :=
  splitOn_writeLetters t.head t.tail

/-- The pieces of several terms are the single letters of all of them. -/
theorem flatMap_pieces (t : Term) (ts : List Term) :
    (t :: ts).flatMap Term.pieces = (t.head :: termLetters t ts).map fun a => [a.char] := by
  have hletters : t.head :: termLetters t ts = (t :: ts).flatMap Term.letters := rfl
  rw [hletters, List.map_flatMap]
  congr 1
  funext u
  exact u.pieces_eq

namespace Formula

/-! ## Trees -/

/-- The same tree, if the terms of predicates are cut at their commas. -/
inductive SameTree : Formula → Formula → Prop
  /-- A variable. -/
  | atom (a : Letter) : SameTree (atom a) (atom a)
  /-- A symbol with terms that fall into the same letters. -/
  | predicate (P : PredicateSymbol) {t u : Term} {ts us : List Term}
      (h : (t :: ts).flatMap Term.pieces = (u :: us).flatMap Term.pieces) :
      SameTree (predicate P t ts) (predicate P u us)
  /-- A negation. -/
  | not {f g : Formula} (h : SameTree f g) : SameTree (not f) (not g)
  /-- A connective. -/
  | binary (op : Connective) {l r l' r' : Formula} (hl : SameTree l l') (hr : SameTree r r') :
      SameTree (binary op l r) (binary op l' r')
  /-- A quantifier and its variable. -/
  | quantified (q : Quantifier) (v : Letter) {f g : Formula} (h : SameTree f g) :
      SameTree (quantified q v f) (quantified q v g)

/-- Terms have the same pieces exactly if they have the same letters in the same order. -/
theorem flatMap_pieces_inj {t u : Term} {ts us : List Term} :
    (t :: ts).flatMap Term.pieces = (u :: us).flatMap Term.pieces ↔
      t.head = u.head ∧ termLetters t ts = termLetters u us := by
  have hinj : Function.Injective fun a : Letter => [a.char] := by
    intro a b hab
    exact Letter.char_inj.1 (List.singleton_inj.1 hab)
  rw [flatMap_pieces, flatMap_pieces, (List.map_injective_iff.2 hinj).eq_iff, List.cons.injEq]

/-- Trees that are the same up to commas are equal when all terms are cut. -/
theorem SameTree.cutTerms_eq {f g : Formula} (h : SameTree f g) : f.cutTerms = g.cutTerms := by
  induction h with
  | atom a => rfl
  | predicate P h =>
    obtain ⟨hhead, hletters⟩ := flatMap_pieces_inj.1 h
    rw [cutTerms, cutTerms, hhead, hletters]
  | not _ ih => rw [cutTerms, cutTerms, ih]
  | binary op _ _ ihl ihr => rw [cutTerms, cutTerms, ihl, ihr]
  | quantified q v _ ih => rw [cutTerms, cutTerms, ih]

/-- Trees that are equal when all terms are cut are the same up to commas. -/
theorem sameTree_of_cutTerms_eq {f g : Formula} (h : f.cutTerms = g.cutTerms) : SameTree f g := by
  -- Cutting terms keeps the constructor, so the other tree has to begin in the same way.
  induction f generalizing g with
  | atom a =>
    cases g <;> simp only [cutTerms, reduceCtorEq, atom.injEq] at h
    subst h
    exact .atom a
  | predicate P t ts =>
    cases g <;> simp only [cutTerms, reduceCtorEq, predicate.injEq] at h
    obtain ⟨rfl, hhead, hletters⟩ := h
    have hinj : Function.Injective Term.ofLetter := fun _ _ hab => congrArg Term.head hab
    exact .predicate P (flatMap_pieces_inj.2
      ⟨hinj hhead, List.map_injective_iff.2 hinj hletters⟩)
  | not f ih =>
    cases g <;> simp only [cutTerms, reduceCtorEq, not.injEq] at h
    exact .not (ih h)
  | binary op l r ihl ihr =>
    cases g <;> simp only [cutTerms, reduceCtorEq, binary.injEq] at h
    obtain ⟨rfl, hl, hr⟩ := h
    exact .binary op (ihl hl) (ihr hr)
  | quantified q v f ih =>
    cases g <;> simp only [cutTerms, reduceCtorEq, quantified.injEq] at h
    obtain ⟨rfl, rfl, hf⟩ := h
    exact .quantified q v (ih hf)

/-- Trees are the same up to commas exactly if their canonical forms are equal. -/
theorem sameTree_iff_same {f g : Formula} : SameTree f g ↔ f.same g = true := by
  rw [same_iff_cutTerms_eq]
  exact ⟨SameTree.cutTerms_eq, sameTree_of_cutTerms_eq⟩

instance (f g : Formula) : Decidable (SameTree f g) :=
  decidable_of_iff _ sameTree_iff_same.symm

/-! ## Where written forms are compared -/

/-- Two formulas are written with spaces in the same way exactly if they are without. -/
theorem pretty_eq_iff_same {f g : Formula} : f.pretty = g.pretty ↔ f.same g = true := by
  refine ⟨pretty_inj, ?_⟩
  intro h
  rw [pretty, pretty, ← chars_cutTerms, same_iff_cutTerms_eq.1 h, chars_cutTerms]

/-- Of two formulas the second is left out exactly if it is the same as the first. -/
theorem keepFirst_pair {f g : Formula} :
    keepFirst canonical [] [f, g] = [f] ↔ f.same g = true := by
  rw [keepFirst_cons_of_not_mem List.not_mem_nil, ← canonical_inj]
  by_cases h : f.canonical = g.canonical
  · rw [keepFirst_cons_of_mem (h ▸ List.mem_cons_self)]
    exact iff_of_true rfl h
  · have hnot : g.canonical ∉ [f.canonical] := by
      intro hmem
      exact h (List.mem_singleton.1 hmem).symm
    rw [keepFirst_cons_of_not_mem hnot]
    exact iff_of_false (by simp [keepFirst]) h

/-- What is assigned to the canonical form of a formula is found by those that are the same. -/
theorem ofTable_singleton {f g : Formula} (v : Value) :
    Assignment.ofTable [(f.canonical, v)] g.canonical = .ofValue v ↔ f.same g = true := by
  rw [← canonical_inj]
  by_cases h : f.canonical = g.canonical
  · refine iff_of_true ?_ h
    simp [Assignment.ofTable, h]
  · have hne : (g.canonical == f.canonical) = false := beq_eq_false_iff_ne.2 (Ne.symm h)
    refine iff_of_false ?_ h
    -- Nothing that is assigned is indeterminate.
    cases v <;> simp [Assignment.ofTable, List.lookup_cons, hne, TruthValue.ofValue]

/-- **Equality of formulas is equality of their trees**, with all terms cut at their commas: this is
what it means that formulas are equal, that their canonical forms are, that their pretty forms are,
that a set of both has one element, and that a value assigned to one is the value of the other. -/
theorem written_eq_iff_sameTree (f g : Formula) :
    (f.same g = true ↔ SameTree f g) ∧
      (f.canonical = g.canonical ↔ SameTree f g) ∧
      (f.pretty = g.pretty ↔ SameTree f g) ∧
      (keepFirst canonical [] [f, g] = [f] ↔ SameTree f g) ∧
      ∀ v : Value, Assignment.ofTable [(f.canonical, v)] g.canonical = .ofValue v ↔
        SameTree f g := by
  rw [sameTree_iff_same]
  exact ⟨Iff.rfl, canonical_inj, pretty_eq_iff_same, keepFirst_pair, ofTable_singleton⟩

/-- Two letters given as one term are the same as two terms, in the same order only. -/
example :
    let a : Letter := ⟨'a', rfl⟩
    let b : Letter := ⟨'b', rfl⟩
    let F : PredicateSymbol := ⟨'F', rfl⟩
    SameTree (.predicate F ⟨a, [b]⟩ []) (.predicate F ⟨a, []⟩ [⟨b, []⟩]) ∧
      ¬ SameTree (.predicate F ⟨a, [b]⟩ []) (.predicate F ⟨b, []⟩ [⟨a, []⟩]) := by
  decide

end Formula

end NaturalDeduction
