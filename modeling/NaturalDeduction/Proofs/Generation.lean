import Mathlib.Data.List.GetD
import NaturalDeduction.Generate
import NaturalDeduction.Proofs.Instances
import NaturalDeduction.Proofs.Subformulas

/-!
# What random formulas can be

Whatever the source of chance gives, a formula is drawn, and what has been drawn can be read off the
formula: one choice for each of its nodes, and one fraction for each node that is less deep than the
bound (`Formula.exists_draw`). Nodes are places, and how deep a node is, is the length of its path
(`Formula.placed`).

Conversely, every formula of the right kind is drawn by some source. Its script is the list of
fractions and choices that lead to it, and it does so wherever a source has it, after whatever was
drawn before and before whatever is drawn later (`Formula.exists_script`). This is what lets the
scripts of two operands be put one after the other. A source with a given script is
`Chance.scripted`.
-/

namespace NaturalDeduction

/-! ## Nodes -/

namespace Formula

/-- The number of nodes. -/
def nodeCount (f : Formula) : Nat :=
  (f.placed false).length

/-- The number of nodes with fewer than `d` operators above them. -/
def nodesAbove (d : Nat) (f : Formula) : Nat :=
  (f.placed false).countP fun node => decide (node.1.length < d)

/-- One operator further up, a node is above one level more. -/
theorem countP_stepUp (d i : Nat) (nodes : List (List Nat × Formula)) :
    (nodes.map (stepUp i)).countP (fun node => decide (node.1.length < d + 1)) =
      nodes.countP fun node => decide (node.1.length < d) := by
  simp [List.countP_map, Function.comp_def, stepUp]

/-- A variable is one node. -/
@[simp] theorem nodeCount_atom (a : Letter) : (atom a).nodeCount = 1 := rfl

/-- A negation is one node more than its operand. -/
@[simp] theorem nodeCount_not (f : Formula) : (not f).nodeCount = 1 + f.nodeCount := by
  simp [nodeCount, placed]
  omega

/-- A connective is one node more than both its operands. -/
@[simp] theorem nodeCount_binary (op : Connective) (l r : Formula) :
    (binary op l r).nodeCount = 1 + l.nodeCount + r.nodeCount := by
  simp [nodeCount, placed]
  omega

/-- No node has fewer than no operators above it. -/
@[simp] theorem nodesAbove_zero (f : Formula) : f.nodesAbove 0 = 0 := by
  simp [nodesAbove]

/-- A variable has no operators above it. -/
@[simp] theorem nodesAbove_atom (d : Nat) (a : Letter) : (atom a).nodesAbove (d + 1) = 1 := by
  simp [nodesAbove, placed]

/-- Below a negation nodes count as one level further down. -/
@[simp] theorem nodesAbove_not (d : Nat) (f : Formula) :
    (not f).nodesAbove (d + 1) = 1 + f.nodesAbove d := by
  rw [nodesAbove, placed, List.countP_cons_of_pos (by simp), countP_stepUp, Nat.add_comm]
  rfl

/-- Below a connective nodes count as one level further down, on both sides. -/
@[simp] theorem nodesAbove_binary (d : Nat) (op : Connective) (l r : Formula) :
    (binary op l r).nodesAbove (d + 1) = 1 + l.nodesAbove d + r.nodesAbove d := by
  rw [nodesAbove, placed, List.countP_cons_of_pos (by simp), List.countP_append, countP_stepUp,
    countP_stepUp, Nat.add_comm, Nat.add_assoc]
  rfl

/-! ## What can be drawn -/

/-- The propositional formulas over given letters with operators nested at most so deep. -/
structure IsOver (letters : List Letter) (d : Nat) (f : Formula) : Prop where
  /-- There are no predicates and no quantifiers. -/
  isPropositional : f.isPropositional = true
  /-- Operators are nested at most so deep. -/
  depth_le : f.depth ≤ d
  /-- All variables are among the letters. -/
  mem_letters : ∀ a ∈ f.variableLetters, a ∈ letters

variable {letters : List Letter} {d : Nat}

/-- Variables that can be drawn are the letters given. -/
theorem isOver_atom {a : Letter} : IsOver letters d (atom a) ↔ a ∈ letters := by
  constructor
  · intro h
    exact h.mem_letters a List.mem_cons_self
  · intro h
    exact ⟨rfl, Nat.zero_le d, fun b hb => List.mem_singleton.1 hb ▸ h⟩

/-- A negation can be drawn where its operand can, with one level less. -/
theorem isOver_not {f : Formula} : IsOver letters (d + 1) (not f) ↔ IsOver letters d f := by
  constructor
  · rintro ⟨hprop, hdepth, hmem⟩
    exact ⟨hprop, Nat.le_of_succ_le_succ hdepth, hmem⟩
  · rintro ⟨hprop, hdepth, hmem⟩
    exact ⟨hprop, Nat.succ_le_succ hdepth, hmem⟩

/-- A connective can be drawn where its operands can, with one level less. -/
theorem isOver_binary {op : Connective} {l r : Formula} :
    IsOver letters (d + 1) (binary op l r) ↔ IsOver letters d l ∧ IsOver letters d r := by
  constructor
  · rintro ⟨hprop, hdepth, hmem⟩
    rw [isPropositional, Bool.and_eq_true] at hprop
    rw [depth] at hdepth
    rw [variableLetters, List.forall_mem_append] at hmem
    exact ⟨⟨hprop.1, by omega, hmem.1⟩, ⟨hprop.2, by omega, hmem.2⟩⟩
  · rintro ⟨hl, hr⟩
    refine ⟨?_, ?_, ?_⟩
    · rw [isPropositional, hl.isPropositional, hr.isPropositional, Bool.and_self]
    · have := hl.depth_le
      have := hr.depth_le
      rw [depth]
      omega
    · rw [variableLetters, List.forall_mem_append]
      exact ⟨hl.mem_letters, hr.mem_letters⟩

/-! ## One step of drawing -/

section Draw

variable {chance : Chance} {first : Except Error Formula} {others : List (Except Error Formula)}

/-- The variables with the given letters, as they are drawn from. -/
def candidates (as : List Letter) : List (Except Error Formula) :=
  as.map fun a => .ok (atom a)

/-- The choice picks one of the letters, and is one choice more. -/
theorem drawAtom_candidates (chance : Chance) (a : Letter) (as : List Letter) (t : Tally) :
    drawAtom chance (.ok (atom a)) (candidates as) t =
      .ok (atom ((a :: as).getD (chance.pick t.choices (as.length + 1)) a),
        ⟨t.fractions, t.choices + 1⟩) := by
  have hnames : (.ok (atom a) : Except Error Formula) :: candidates as =
      (a :: as).map fun b => .ok (atom b) := rfl
  simp only [drawAtom, hnames, List.getD_map, List.length_map, List.length_cons]
  rfl

/-- The operator that a choice gives. -/
def operatorAt (chance : Chance) (n : Nat) : Option Connective :=
  randomOperators.getD (chance.pick n randomOperators.length) none

/-- Where the fraction says so, a variable is drawn. -/
theorem draw_of_stops {t : Tally} (h : chance.stops t.fractions = true) :
    draw chance first others (d + 1) t =
      drawAtom chance first others ⟨t.fractions + 1, t.choices⟩ := by
  rw [draw, h]
  rfl

/-- Where no operator is chosen but negation, the rest is drawn as its operand. -/
theorem draw_not {t t' : Tally} {f : Formula} (hstop : chance.stops t.fractions = false)
    (hop : operatorAt chance t.choices = none)
    (hf : draw chance first others d ⟨t.fractions + 1, t.choices + 1⟩ = .ok (f, t')) :
    draw chance first others (d + 1) t = .ok (not f, t') := by
  rw [operatorAt] at hop
  simp only [draw, hstop, hop, hf]
  rfl

/-- Where a connective is chosen, the sides are drawn one after the other. -/
theorem draw_binary {t t' t'' : Tally} {op : Connective} {l r : Formula}
    (hstop : chance.stops t.fractions = false) (hop : operatorAt chance t.choices = some op)
    (hl : draw chance first others d ⟨t.fractions + 1, t.choices + 1⟩ = .ok (l, t'))
    (hr : draw chance first others d t' = .ok (r, t'')) :
    draw chance first others (d + 1) t = .ok (binary op l r, t'') := by
  rw [operatorAt] at hop
  simp only [draw, hstop, hop, hl]
  simp only [bind, Except.bind, hr]
  rfl

end Draw

/-! ## Every source draws a formula -/

/-- Some letter is drawn, whatever is chosen. -/
theorem exists_drawAtom (chance : Chance) (a : Letter) (as : List Letter) (t : Tally) :
    ∃ b ∈ a :: as, drawAtom chance (.ok (atom a)) (candidates as) t =
      .ok (atom b, ⟨t.fractions, t.choices + 1⟩) := by
  have hlt := chance.pick_lt t.choices (Nat.succ_pos as.length)
  refine ⟨_, ?_, drawAtom_candidates chance a as t⟩
  rw [List.getD_eq_getElem _ _ hlt]
  exact List.getElem_mem hlt

/-- **A formula is drawn whatever the source gives**, it is of the right kind, and what has been
drawn can be read off it. -/
theorem exists_draw (chance : Chance) (a : Letter) (as : List Letter) (d : Nat) (t : Tally) :
    ∃ f, IsOver (a :: as) d f ∧ draw chance (.ok (atom a)) (candidates as) d t =
      .ok (f, ⟨t.fractions + f.nodesAbove d, t.choices + f.nodeCount⟩) := by
  induction d generalizing t with
  | zero =>
    obtain ⟨b, hb, hdraw⟩ := exists_drawAtom chance a as t
    refine ⟨atom b, isOver_atom.2 hb, ?_⟩
    rw [draw, hdraw]
    simp
  | succ d ih =>
    cases hstop : chance.stops t.fractions with
    | true =>
      obtain ⟨b, hb, hdraw⟩ := exists_drawAtom chance a as ⟨t.fractions + 1, t.choices⟩
      refine ⟨atom b, isOver_atom.2 hb, ?_⟩
      rw [draw_of_stops hstop, hdraw]
      simp
    | false =>
      obtain ⟨l, hl, hdrawl⟩ := ih ⟨t.fractions + 1, t.choices + 1⟩
      cases hop : operatorAt chance t.choices with
      | none =>
        refine ⟨not l, isOver_not.2 hl, ?_⟩
        rw [draw_not hstop hop hdrawl]
        simp only [nodesAbove_not, nodeCount_not, Nat.add_assoc]
      | some op =>
        -- The right operand is drawn from where the left one has ended.
        obtain ⟨r, hr, hdrawr⟩ := ih ⟨t.fractions + 1 + l.nodesAbove d,
          t.choices + 1 + l.nodeCount⟩
        refine ⟨binary op l r, isOver_binary.2 ⟨hl, hr⟩, ?_⟩
        rw [draw_binary hstop hop hdrawl hdrawr]
        simp only [nodesAbove_binary, nodeCount_binary, Nat.add_assoc]

end Formula

/-! ## Scripts -/

namespace Chance

/-- A source gives, from what has been drawn on, fractions that stop or not as listed, and the
listed choices. -/
structure Gives (chance : Chance) (t : Tally) (stops : List Bool) (picks : List Nat) : Prop where
  /-- The fractions. -/
  fraction : ∀ (i : Nat) (b : Bool), stops[i]? = some b → chance.stops (t.fractions + i) = b
  /-- The choices. -/
  choice : ∀ (i k : Nat), picks[i]? = some k → chance.choice (t.choices + i) = (k : Int)

variable {chance : Chance} {t : Tally} {stops stops' : List Bool} {picks picks' : List Nat}

/-- The first part of a script comes first. -/
theorem Gives.left (h : chance.Gives t (stops ++ stops') (picks ++ picks')) :
    chance.Gives t stops picks where
  fraction i b hb := h.fraction i b (by
    rw [List.getElem?_append_left (List.getElem?_eq_some_iff.1 hb).1, hb])
  choice i k hk := h.choice i k (by
    rw [List.getElem?_append_left (List.getElem?_eq_some_iff.1 hk).1, hk])

/-- The second part of a script comes after as much as the first part has. -/
theorem Gives.right (h : chance.Gives t (stops ++ stops') (picks ++ picks')) :
    chance.Gives ⟨t.fractions + stops.length, t.choices + picks.length⟩ stops' picks' where
  fraction i b hb := by
    rw [Nat.add_assoc]
    apply h.fraction
    rw [List.getElem?_append_right (Nat.le_add_right _ _), Nat.add_sub_cancel_left, hb]
  choice i k hk := by
    rw [Nat.add_assoc]
    apply h.choice
    rw [List.getElem?_append_right (Nat.le_add_right _ _), Nat.add_sub_cancel_left, hk]

/-- A listed choice among more things than its number picks the thing with that number. -/
theorem Gives.pick {k count : Nat} (h : chance.Gives t stops (k :: picks)) (hk : k < count) :
    chance.pick t.choices count = k := by
  have hchoice := h.choice 0 k rfl
  rw [Nat.add_zero] at hchoice
  rw [Chance.pick, hchoice, Int.emod_eq_of_lt (Int.natCast_nonneg k) (Int.ofNat_lt.2 hk),
    Int.toNat_natCast]

/-- The fractions of a proper source are at least zero and below one. -/
def IsProper (chance : Chance) : Prop :=
  ∀ n, (chance.fraction n).extent.lt (.ofInt 0) = false ∧
    (chance.fraction n).extent.lt (.ofInt 1) = true

/-- The source that follows a script: zero where it is to stop, one half where not. -/
def scripted (stops : List Bool) (picks : List Nat) : Chance where
  fraction n := if stops.getD n true then .zero false else .ofQuotient false 1 2
  choice n := (picks.getD n 0 : Nat)

/-- A script draws fractions as a source should. -/
theorem isProper_scripted (stops : List Bool) (picks : List Nat) :
    (scripted stops picks).IsProper := by
  intro n
  simp only [scripted]
  cases stops.getD n true <;> decide +kernel

/-- The source stops where the script says, and at its end. -/
theorem stops_scripted (stops : List Bool) (picks : List Nat) (n : Nat) :
    (scripted stops picks).stops n = stops.getD n true := by
  simp only [Chance.stops, scripted]
  cases stops.getD n true <;> decide +kernel

/-- The source gives what is in the script. -/
theorem gives_scripted (stops : List Bool) (picks : List Nat) :
    (scripted stops picks).Gives ⟨0, 0⟩ stops picks where
  fraction i b hb := by
    rw [stops_scripted, Nat.zero_add, List.getD_eq_getElem?_getD, hb]
    rfl
  choice i k hk := by
    simp [scripted, List.getD_eq_getElem?_getD, hk]

end Chance

namespace Formula

/-- For each of the letters there is a choice that draws it. -/
theorem exists_pick_atom {a b : Letter} {as : List Letter} (hb : b ∈ a :: as) :
    ∃ k, ∀ (chance : Chance) (t : Tally) (stops : List Bool) (picks : List Nat),
      chance.Gives t stops (k :: picks) →
        drawAtom chance (.ok (atom a)) (candidates as) t =
          .ok (atom b, ⟨t.fractions, t.choices + 1⟩) := by
  obtain ⟨k, hk, hget⟩ := List.mem_iff_getElem.1 hb
  refine ⟨k, ?_⟩
  intro chance t stops picks h
  have hpick : chance.pick t.choices (as.length + 1) = k := h.pick hk
  rw [drawAtom_candidates, hpick, List.getD_eq_getElem _ _ hk, hget]

/-- For each of the operators there is a choice that gives it. -/
theorem exists_pick_operator (op : Option Connective) :
    ∃ k, ∀ (chance : Chance) (t : Tally) (stops : List Bool) (picks : List Nat),
      chance.Gives t stops (k :: picks) → operatorAt chance t.choices = op := by
  have hmem : op ∈ randomOperators := by
    cases op with
    | none => decide
    | some op => cases op <;> decide
  obtain ⟨k, hk, hget⟩ := List.mem_iff_getElem.1 hmem
  refine ⟨k, ?_⟩
  intro chance t stops picks h
  rw [operatorAt, h.pick hk, List.getD_eq_getElem _ _ hk, hget]

/-- **Every formula of the right kind has a script**: wherever a source gives it, the formula is
drawn, and nothing more is. -/
theorem exists_script {a : Letter} {as : List Letter} {d : Nat} {f : Formula}
    (hf : IsOver (a :: as) d f) :
    ∃ (stops : List Bool) (picks : List Nat), ∀ (chance : Chance) (t : Tally),
      chance.Gives t stops picks → draw chance (.ok (atom a)) (candidates as) d t =
        .ok (f, ⟨t.fractions + stops.length, t.choices + picks.length⟩) := by
  induction f generalizing d with
  | atom b =>
    obtain ⟨k, hk⟩ := exists_pick_atom (isOver_atom.1 hf)
    cases d with
    | zero =>
      refine ⟨[], [k], ?_⟩
      intro chance t h
      rw [draw, hk chance t [] [] h]
      rfl
    | succ d =>
      refine ⟨[true], [k], ?_⟩
      intro chance t h
      have hpick : chance.Gives ⟨t.fractions + 1, t.choices⟩ [] [k] :=
        Chance.Gives.right (show chance.Gives t ([true] ++ []) ([] ++ [k]) from h)
      rw [draw_of_stops (h.fraction 0 true rfl)]
      exact hk chance _ [] [] hpick
  | predicate P u us => exact absurd hf.isPropositional Bool.false_ne_true
  | quantified q v f ih => exact absurd hf.isPropositional Bool.false_ne_true
  | not f ih =>
    cases d with
    | zero => exact absurd hf.depth_le (Nat.not_succ_le_zero _)
    | succ d =>
      obtain ⟨k, hk⟩ := exists_pick_operator none
      obtain ⟨stops, picks, hdraw⟩ := ih (isOver_not.1 hf)
      refine ⟨[false] ++ stops, [k] ++ picks, ?_⟩
      intro chance t h
      rw [draw_not (h.fraction 0 false rfl) (hk chance t _ _ h) (hdraw chance _ h.right)]
      simp [Nat.add_assoc, Nat.add_comm 1]
  | binary op l r ihl ihr =>
    cases d with
    | zero => exact absurd hf.depth_le (Nat.not_succ_le_zero _)
    | succ d =>
      obtain ⟨k, hk⟩ := exists_pick_operator (some op)
      obtain ⟨hl, hr⟩ := isOver_binary.1 hf
      obtain ⟨stopsl, picksl, hdrawl⟩ := ihl hl
      obtain ⟨stopsr, picksr, hdrawr⟩ := ihr hr
      refine ⟨[false] ++ (stopsl ++ stopsr), [k] ++ (picksl ++ picksr), ?_⟩
      intro chance t h
      have hoperands := h.right
      rw [draw_binary (h.fraction 0 false rfl) (hk chance t _ _ h) (hdrawl chance _ hoperands.left)
        (hdrawr chance _ hoperands.right)]
      simp [Nat.add_assoc, Nat.add_comm 1]

/-! ## Depths and names as values -/

/-- A depth that is a natural number is that number. -/
theorem depthOf_ofInt (d : Nat) : depthOf (.ofInt (d : Int)) = d := by
  simp [depthOf, Extent.ofInt, Extent.floor?, Extent.same]

/-- A letter is accepted as the name of its variable. -/
theorem atomOf_char (a : Letter) : atomOf (.text (String.singleton a.char)) = .ok (atom a) := by
  simp [atomOf, letterOf?, Value.toText?, readVariable?]

/-- With a depth that is a natural number and a text of letters, nothing is refused. -/
theorem randomOf_text (chance : Chance) (d : Nat) (a : Letter) (as : List Letter) :
    randomOf chance (.int d) (.text (String.ofList ((a :: as).map Letter.char))) =
      draw chance (.ok (atom a)) (candidates as) d ⟨0, 0⟩ := by
  have hnames : (((a :: as).map Letter.char).map fun c => Value.text (String.singleton c)).map
      atomOf = .ok (atom a) :: candidates as := by
    simp [candidates, atomOf_char, Function.comp_def]
  have hitems : (Value.text (String.ofList ((a :: as).map Letter.char))).items? =
      some (((a :: as).map Letter.char).map fun c => .text (String.singleton c)) := by
    simp [Value.items?, Value.opened]
  have hsome : (String.ofList ((a :: as).map Letter.char)).isEmpty = false := by
    simp
  have hdepth : ¬ ((d : Int) < 0) := Int.not_lt.2 (Int.natCast_nonneg d)
  simp only [randomOf, Value.extent?, Value.toInt?, Option.map_some, Extent.lt_ofInt, hdepth,
    decide_false, Value.isFalsy, hsome, hitems, depthOf_ofInt, random, hnames]
  rfl

/-- A text of lowercase letters is made of the characters of letters. -/
theorem exists_letters {s : String} (h : ∀ c ∈ s.toList, c.isLower = true) :
    ∃ letters : List Letter, s = String.ofList (letters.map Letter.char) := by
  refine ⟨s.toList.pmap Letter.mk h, ?_⟩
  rw [List.map_pmap, List.pmap_eq_map, List.map_id', String.ofList_toList]

/-- The letters of a text are the letters it was written with. -/
theorem char_mem_letters {letters : List Letter} {b : Letter} :
    b.char ∈ (String.ofList (letters.map Letter.char)).toList ↔ b ∈ letters := by
  have hinj : Function.Injective Letter.char := fun _ _ => Letter.char_inj.1
  rw [String.toList_ofList, List.mem_map_of_injective hinj]

/-- **The random formulas are exactly the propositional ones over the given letters with operators
nested at most so deep.** Each of them is drawn by some source, even by one whose fractions lie
between zero and one, and no source draws anything else or fails. For the formula that is drawn
there is one choice for each node and one fraction for each node with less than `d` operators above
it. -/
theorem random_iff_and_tally (d : Nat) (names : String) (hsome : names ≠ "")
    (hlower : ∀ c ∈ names.toList, c.isLower = true) :
    (∀ f : Formula,
      (∃ chance tally, chance.IsProper ∧
        randomOf chance (.int d) (.text names) = .ok (f, tally)) ↔
        f.isPropositional = true ∧ f.depth ≤ d ∧
          ∀ a ∈ f.variableLetters, a.char ∈ names.toList) ∧
      ∀ chance : Chance, ∃ f : Formula,
        randomOf chance (.int d) (.text names) = .ok (f, ⟨f.nodesAbove d, f.nodeCount⟩) ∧
          f.isPropositional = true ∧ f.depth ≤ d ∧
          ∀ a ∈ f.variableLetters, a.char ∈ names.toList := by
  obtain ⟨letters, rfl⟩ := exists_letters hlower
  obtain ⟨a, as, rfl⟩ : ∃ a as, letters = a :: as := by
    apply List.exists_cons_of_ne_nil
    rintro rfl
    exact hsome rfl
  have hdraws : ∀ chance : Chance, ∃ f, IsOver (a :: as) d f ∧
      draw chance (.ok (atom a)) (candidates as) d ⟨0, 0⟩ = .ok (f, ⟨f.nodesAbove d, f.nodeCount⟩) := by
    intro chance
    obtain ⟨f, hf, hdraw⟩ := exists_draw chance a as d ⟨0, 0⟩
    rw [Nat.zero_add, Nat.zero_add] at hdraw
    exact ⟨f, hf, hdraw⟩
  simp only [randomOf_text, char_mem_letters]
  constructor
  · intro f
    constructor
    · rintro ⟨chance, tally, -, hf⟩
      obtain ⟨g, hg, hdraw⟩ := hdraws chance
      rw [hdraw] at hf
      cases hf
      exact ⟨hg.isPropositional, hg.depth_le, hg.mem_letters⟩
    · rintro ⟨hprop, hdepth, hmem⟩
      obtain ⟨stops, picks, hscript⟩ := exists_script ⟨hprop, hdepth, hmem⟩
      exact ⟨.scripted stops picks, _, Chance.isProper_scripted stops picks,
        hscript _ _ (Chance.gives_scripted stops picks)⟩
  · intro chance
    obtain ⟨f, hf, hdraw⟩ := hdraws chance
    exact ⟨f, hdraw, hf.isPropositional, hf.depth_le, hf.mem_letters⟩

/-- Over two letters and with two operators nested, `~q -> p` is drawn by some source and `~~~p` by
none. -/
theorem random_iff_and_tally_two :
    let p : Formula := .atom ⟨'p', rfl⟩
    let q : Formula := .atom ⟨'q', rfl⟩
    (∃ chance tally, chance.IsProper ∧
      randomOf chance (.int 2) (.text "qp") = .ok (.binary .implies (.not q) p, tally)) ∧
      ¬ ∃ chance tally, chance.IsProper ∧
        randomOf chance (.int 2) (.text "qp") = .ok (.not (.not (.not p)), tally) := by
  intro p q
  have hlower : "qp".toList.all Char.isLower = true := by decide
  have h := (random_iff_and_tally 2 "qp" (by decide) (List.all_eq_true.1 hlower)).1
  refine ⟨(h _).2 (by decide), ?_⟩
  intro hdrawn
  exact absurd ((h _).1 hdrawn) (by decide)

end Formula

end NaturalDeduction
