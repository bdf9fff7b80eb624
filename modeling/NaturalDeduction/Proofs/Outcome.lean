import Mathlib.Data.List.Forall2

/-!
# Outcomes of computations that may fail

A computation that ends well has ended well at every step (`exists_ok_of_bind`), also where it goes
through a list (`forall₂_of_mapM`, `invariant_of_foldlM`). One that fails has failed at a step
(`bind_ne_error`), in a list at an item, after it has ended well at those before it
(`exists_first_error_of_mapM`). A search in a table finds every
entry if no key occurs twice (`lookup_eq_some_of_mem`).
-/

namespace NaturalDeduction

variable {ε α β : Type}

/-- A chain of two steps that succeeds is two steps that succeed. -/
theorem exists_ok_of_bind {x : Except ε α} {k : α → Except ε β} {b : β} (h : x >>= k = .ok b) :
    ∃ a, x = .ok a ∧ k a = .ok b := by
  cases x with
  | error e => cases h
  | ok a => exact ⟨a, rfl, h⟩

/-- A chain of two steps does not fail in a way in which neither of them fails. -/
theorem bind_ne_error {x : Except ε α} {k : α → Except ε β} {e : ε} (hx : x ≠ .error e)
    (hk : ∀ a, k a ≠ .error e) : x >>= k ≠ .error e := by
  intro h
  cases x with
  | error e' =>
    cases h
    exact hx rfl
  | ok a => exact hk a h

/-- Results for all items of a list come from the items one by one. -/
theorem forall₂_of_mapM {f : α → Except ε β} {as : List α} {bs : List β}
    (h : as.mapM f = .ok bs) : List.Forall₂ (fun a b => f a = .ok b) as bs := by
  induction as generalizing bs with
  | nil =>
    cases h
    exact .nil
  | cons a as ih =>
    rw [List.mapM_cons] at h
    obtain ⟨b, hb, h⟩ := exists_ok_of_bind h
    obtain ⟨bs', hbs, h⟩ := exists_ok_of_bind h
    cases h
    exact .cons hb (ih hbs)

/-- A failure in going through a list is that of the first item that fails. -/
theorem exists_first_error_of_mapM {f : α → Except ε β} {as : List α} {e : ε}
    (h : as.mapM f = .error e) :
    ∃ before a after, as = before ++ a :: after ∧ (∀ x ∈ before, ∃ b, f x = .ok b) ∧
      f a = .error e := by
  induction as with
  | nil => cases h
  | cons a as ih =>
    rw [List.mapM_cons] at h
    rcases ha : f a with e' | b
    · rw [ha] at h
      cases h
      exact ⟨[], a, as, rfl, List.forall_mem_nil _, ha⟩
    · rcases has : as.mapM f with e' | bs
      · rw [ha, has] at h
        cases h
        obtain ⟨before, a', after, rfl, hbefore, hfail⟩ := ih has
        exact ⟨a :: before, a', after, rfl, List.forall_mem_cons.2 ⟨⟨b, ha⟩, hbefore⟩, hfail⟩
      · rw [ha, has] at h
        cases h

/-- A run over a list that fails has failed at one of the members. -/
theorem exists_error_of_mapM {f : α → Except ε β} {as : List α} {e : ε}
    (h : as.mapM f = .error e) : ∃ a ∈ as, f a = .error e := by
  obtain ⟨before, a, after, rfl, -, hfail⟩ := exists_first_error_of_mapM h
  exact ⟨a, List.mem_append_right _ List.mem_cons_self, hfail⟩

/-- What every step of a run keeps, the run keeps. -/
theorem invariant_of_foldlM {f : β → α → Except ε β} {P : β → Prop}
    (hstep : ∀ {b a b'}, P b → f b a = .ok b' → P b') {as : List α} {b b' : β} (hb : P b)
    (h : as.foldlM f b = .ok b') : P b' := by
  induction as generalizing b with
  | nil =>
    cases h
    exact hb
  | cons a as ih =>
    rw [List.foldlM_cons] at h
    obtain ⟨c, hc, h⟩ := exists_ok_of_bind h
    exact ih (hstep hb hc) h

/-- What a table holds under a key is found, if no key occurs twice. -/
theorem lookup_eq_some_of_mem {κ : Type} [BEq κ] [LawfulBEq κ] {table : List (κ × β)}
    (hkeys : (table.map Prod.fst).Nodup) {k : κ} {b : β} (hmem : (k, b) ∈ table) :
    table.lookup k = some b := by
  induction table with
  | nil => cases hmem
  | cons entry table ih =>
    obtain ⟨k', b'⟩ := entry
    rw [List.map_cons, List.nodup_cons] at hkeys
    rcases List.mem_cons.1 hmem with heq | hrest
    · cases heq
      exact List.lookup_cons_self
    · have hne : k ≠ k' := by
        rintro rfl
        exact hkeys.1 (List.mem_map.2 ⟨(k, b), hrest, rfl⟩)
      rw [List.lookup_cons, beq_false_of_ne hne]
      exact ih hkeys.2 hrest

end NaturalDeduction
