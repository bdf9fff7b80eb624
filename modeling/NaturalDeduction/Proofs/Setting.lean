import NaturalDeduction.Proofs.Lines

/-!
# Setting in lines loses nothing

Text is held back in a buffer while groups count the gaps they have in it. The two are tied together
by what holds all the time (`Layout.Holds`): every count is the number of gaps in the buffer, and
what has been set, followed by what is held back, is all that was said so far. Whatever sets text
sets the item at the front of the buffer, be it to break a group or to empty the buffer, so that one
lemma on an item (`Holds.emit`) carries all of it. It does not matter which group is broken, nor
whether the queue loses the right entry, nor what the widths are: taking a group from the queues
only changes which groups are broken (`dequeue_spec`), and the column of an item does not change
what it says.

Setting is a total function, with an answer also where a group or a gap that it looks for is
missing. That none is missing and that the loops end by themselves is said apart (`State.CanRun`);
it follows from the counts, since a group waits for gaps that are in the buffer and for no others.

As long as the text fits into a line nothing is broken, and even the widths are right (`Flat`).

**Main result** (`Formula.setIn_says_constructorForm`): at every width setting ends, and with its
lines joined the result is the form with constructors; where this fits into a line, it is the
result.
-/

namespace NaturalDeduction

namespace Layout

/-! ## The buffer -/

/-- The text that an item says when lines do not matter. -/
def Item.content : Item → List Char
  | .text s => s
  | .gap _ _ => [' ']

/-- Whether an item is a gap of a group. -/
def Item.isGapOf (g : Nat) : Item → Bool
  | .text _ => false
  | .gap _ g' => g' == g

/-- The text that is held back. -/
def held (buffer : List Item) : List Char :=
  buffer.flatMap Item.content

/-- The number of gaps of a group in the buffer. -/
def gapsOf (g : Nat) (buffer : List Item) : Nat :=
  buffer.countP (Item.isGapOf g)

/-- The empty buffer says nothing. -/
@[simp] theorem held_nil : held [] = [] := rfl

/-- The first item says its text first. -/
@[simp] theorem held_cons (x : Item) (buffer : List Item) :
    held (x :: buffer) = x.content ++ held buffer := rfl

/-- Items say one after the other what they say. -/
@[simp] theorem held_append (buffer rest : List Item) :
    held (buffer ++ rest) = held buffer ++ held rest :=
  List.flatMap_append

/-- There are no gaps in the empty buffer. -/
@[simp] theorem gapsOf_nil (g : Nat) : gapsOf g [] = 0 := rfl

/-- A text is no gap. -/
@[simp] theorem gapsOf_text (g : Nat) (s : List Char) (buffer : List Item) :
    gapsOf g (.text s :: buffer) = gapsOf g buffer := by
  simp [gapsOf, Item.isGapOf]

/-- A gap counts for its own group. -/
@[simp] theorem gapsOf_gap (g n g' : Nat) (buffer : List Item) :
    gapsOf g (.gap n g' :: buffer) = gapsOf g buffer + if g' = g then 1 else 0 := by
  simp [gapsOf, Item.isGapOf, List.countP_cons]

/-- Gaps are counted in each part of a buffer. -/
@[simp] theorem gapsOf_append (g : Nat) (buffer rest : List Item) :
    gapsOf g (buffer ++ rest) = gapsOf g buffer + gapsOf g rest :=
  List.countP_append

/-- Text that joins the buffer is said at its end. -/
theorem held_appendText (s : List Char) (buffer : List Item) :
    held (State.appendText s buffer) = held buffer ++ s := by
  fun_induction State.appendText with
  | case1 => simp [Item.content]
  | case2 t => simp [Item.content]
  | case3 x buffer _ ih => simp [ih]

/-- Text that joins the buffer is no gap of any group. -/
theorem gapsOf_appendText (g : Nat) (s : List Char) (buffer : List Item) :
    gapsOf g (State.appendText s buffer) = gapsOf g buffer := by
  fun_induction State.appendText with
  | case1 => simp
  | case2 t => simp
  | case3 x buffer _ ih => cases x <;> simp [ih]

/-! ## The groups -/

/-- The number of gaps in the buffer as a group counts them. -/
def pendingOf (groups : List Group) (g : Nat) : Nat :=
  (groups[g]?.map Group.pending).getD 0

/-- A group that is there counts its gaps itself. -/
theorem pendingOf_eq {groups : List Group} {g : Nat} {group : Group}
    (h : groups[g]? = some group) : pendingOf groups g = group.pending := by
  rw [pendingOf, h]
  rfl

/-- A group with gaps in the buffer is there. -/
theorem exists_of_pendingOf_pos {groups : List Group} {g : Nat} (h : 0 < pendingOf groups g) :
    ∃ group, groups[g]? = some group ∧ 0 < group.pending := by
  cases hg : groups[g]? with
  | none =>
    rw [pendingOf, hg] at h
    cases h
  | some group =>
    rw [pendingOf_eq hg] at h
    exact ⟨group, rfl, h⟩

/-- A group has gaps in the buffer exactly if it counts some. -/
theorem hasPending_eq (groups : List Group) (g : Nat) :
    hasPending groups g = decide (0 < pendingOf groups g) := by
  cases hg : groups[g]? with
  | none => simp [hasPending, pendingOf, hg]
  | some group => simp [hasPending, pendingOf, hg]

/-- Changing a group changes its own count only. -/
theorem pendingOf_modify {groups : List Group} {g : Nat} {f : Group → Group} {k : Nat → Nat}
    (hf : ∀ group, (f group).pending = k group.pending) (hg : g < groups.length) (g' : Nat) :
    pendingOf (groups.modify g f) g' =
      if g = g' then k (pendingOf groups g') else pendingOf groups g' := by
  rw [pendingOf, List.getElem?_modify]
  split
  · next heq =>
    subst heq
    simp [pendingOf, List.getElem?_eq_getElem hg, hf]
  · simp [pendingOf]

/-- What holds of all groups holds after one has been changed, if the change keeps it. -/
theorem forall_mem_modify {P : Group → Prop} {groups : List Group} {f : Group → Group}
    (hf : ∀ group, P group → P (f group)) (h : ∀ group ∈ groups, P group) (g : Nat) :
    ∀ group ∈ groups.modify g f, P group := by
  intro group hmem
  obtain ⟨i, hi⟩ := List.mem_iff_getElem?.1 hmem
  rw [List.getElem?_modify] at hi
  obtain ⟨group', hget, rfl⟩ := Option.map_eq_some_iff.1 hi
  have hgroup' := h group' (List.mem_of_getElem? hget)
  split
  · exact hf group' hgroup'
  · exact hgroup'

/-- A new group has no gaps in the buffer. -/
theorem pendingOf_append_new (groups : List Group) (depth g : Nat) :
    pendingOf (groups ++ [⟨depth, 0, false⟩]) g = pendingOf groups g := by
  unfold pendingOf
  rcases Nat.lt_trichotomy g groups.length with hlt | rfl | hgt
  · rw [List.getElem?_append_left hlt]
  · simp
  · rw [List.getElem?_eq_none (by simp; omega), List.getElem?_eq_none (by omega)]

/-- A group, whether it is broken or not. -/
def Group.unmark (group : Group) : Group :=
  { group with broken := false }

/-- The count does not depend on which groups are broken. -/
theorem pendingOf_map_unmark (groups : List Group) (g : Nat) :
    pendingOf (groups.map Group.unmark) g = pendingOf groups g := by
  rw [pendingOf, pendingOf, List.getElem?_map, Option.map_map]
  rfl

/-- Breaking a group changes nothing but that it is broken. -/
theorem map_unmark_markBroken (groups : List Group) (g : Nat) :
    (markBroken groups g).map Group.unmark = groups.map Group.unmark := by
  refine List.ext_getElem? fun g' => ?_
  rw [List.getElem?_map, List.getElem?_map, markBroken, List.getElem?_modify]
  cases groups[g']? with
  | none => rfl
  | some group =>
    by_cases heq : g = g'
    · simp [heq, Group.unmark]
    · simp [heq]

/-- Breaking several groups changes nothing but that they are broken. -/
theorem map_unmark_foldl (level : List Nat) (groups : List Group) :
    (level.foldl markBroken groups).map Group.unmark = groups.map Group.unmark := by
  induction level generalizing groups with
  | nil => rfl
  | cons g level ih => rw [List.foldl_cons, ih, map_unmark_markBroken]

/-- Taking a group from the queues changes which groups are broken, and nothing else about them. -/
theorem dequeue_spec (groups : List Group) (queue : List (List Nat)) :
    (dequeue groups queue).2.1.map Group.unmark = groups.map Group.unmark ∧
    (dequeue groups queue).2.2.length = queue.length := by
  induction queue generalizing groups with
  | nil => exact ⟨rfl, rfl⟩
  | cons level queue ih =>
    rw [dequeue]
    split
    · exact ⟨map_unmark_markBroken _ _, rfl⟩
    · obtain ⟨hgroups, hqueue⟩ := ih (level.foldl markBroken groups)
      exact ⟨hgroups.trans (map_unmark_foldl level groups), by simp [hqueue]⟩

/-- Taking a group from the queues takes no queue away. -/
theorem length_removeFromQueue (queue : List (List Nat)) (depth g : Nat) :
    (removeFromQueue queue depth g).length = queue.length :=
  List.length_modify ..

/-- After a group has been put into the queues there is one for its depth. -/
theorem length_enqueue (queue : List (List Nat)) (depth g : Nat) :
    (enqueue queue depth g).length = max queue.length (depth + 1) := by
  simp [enqueue]
  omega

/-! ## What can go wrong

Setting reads the groups of gaps and the groups on the stack, takes items from the buffer and groups
from the queues. The following say of one part of the work after the other that whatever it looks
for is there, and that the loops come to an end. -/

namespace State

/-- An item can be set: the group of a gap is there, it waits for a gap, and there is a queue for
its depth. -/
def CanEmit (st : State) : Item → Prop
  | .text _ => True
  | .gap _ g => ∃ group, st.groups[g]? = some group ∧ 0 < group.pending ∧
      group.depth < st.queue.length

/-- The buffer can be set up to the last gap of a group: it does not run out before. -/
inductive CanBreakGroup (g : Nat) : State → List Item → Prop where
  /-- No gap is left. -/
  | done {st : State} {buffer : List Item} :
    hasPending st.groups g = false → CanBreakGroup g st buffer
  /-- An item is set and it goes on. -/
  | front {st : State} {x : Item} {buffer : List Item} :
    hasPending st.groups g = true → st.CanEmit x → CanBreakGroup g (st.emitFront x buffer) buffer →
    CanBreakGroup g st (x :: buffer)

/-- Groups can be broken one after the other, and this ends. -/
inductive CanBreakOuter (width : Int) : State → Prop where
  /-- What is held back fits. -/
  | fits {st : State} : st.outWidth + st.bufferWidth ≤ width → CanBreakOuter width st
  /-- No group is left. -/
  | exhausted {st : State} {groups : List Group} {queue : List (List Nat)} :
    width < st.outWidth + st.bufferWidth → dequeue st.groups st.queue = (none, groups, queue) →
    CanBreakOuter width st
  /-- A group is broken and it goes on. -/
  | round {st : State} {g : Nat} {groups : List Group} {queue : List (List Nat)} :
    width < st.outWidth + st.bufferWidth → dequeue st.groups st.queue = (some g, groups, queue) →
    CanBreakGroup g { st with groups, queue } st.buffer →
    CanBreakOuter width (breakGroup g { st with groups, queue } st.buffer) →
    CanBreakOuter width st

/-- Sets an item when the buffer is emptied. -/
def flushItem (st : State) (x : Item) : State :=
  { (st.emit st.outWidth x).2 with outWidth := st.outWidth + (st.emit st.outWidth x).1 }

/-- Emptying the buffer sets its items one after the other. -/
theorem flush_eq (st : State) :
    st.flush = { st.buffer.foldl flushItem st with buffer := [], bufferWidth := 0 } := rfl

/-- All items can be set. -/
def CanFlush : State → List Item → Prop
  | _, [] => True
  | st, x :: buffer => st.CanEmit x ∧ CanFlush (st.flushItem x) buffer

/-- More text is held back. -/
def hold (st : State) (s : List Char) : State :=
  { st with buffer := appendText s st.buffer, bufferWidth := st.bufferWidth + s.length }

/-- A gap of a group is held back. -/
def holdGap (st : State) (g : Nat) : State :=
  { st with
    buffer := st.buffer ++ [.gap st.indentation g]
    groups := st.groups.modify g fun group => { group with pending := group.pending + 1 }
    bufferWidth := st.bufferWidth + 1 }

/-- With nothing held back, text is set at once. -/
theorem addText_of_nil {st : State} (width : Int) (s : List Char) (h : st.buffer = []) :
    st.addText width s = { st with out := st.out ++ s, outWidth := st.outWidth + s.length } := by
  rw [addText, h]
  rfl

/-- With something held back, text is held back too, and groups are broken if the line is full. -/
theorem addText_of_ne_nil {st : State} (width : Int) (s : List Char) (h : st.buffer ≠ []) :
    st.addText width s = breakOuter width (st.hold s) := by
  rw [addText, if_neg (by simpa using h)]
  rfl

/-- A gap ends the line if its group is broken, and is held back if not. -/
theorem addGap_eq {st : State} (width : Int) {g : Nat} {stack : List Nat} {group : Group}
    (hstack : st.stack = g :: stack) (hg : st.groups[g]? = some group) :
    st.addGap width =
      if group.broken then
        { st.flush with
          out := st.flush.out ++ lineBreak st.flush.indentation
          outWidth := st.flush.indentation
          bufferWidth := 0 }
      else breakOuter width (st.holdGap g) := by
  have htop : st.stack.headD 0 = g := by rw [hstack, List.headD_cons]
  simp only [addGap, htop, hg]
  rfl

/-- An instruction can be carried out. -/
def CanStep (width : Int) (st : State) : Instruction → Prop
  | .text s => st.buffer ≠ [] → CanBreakOuter width (st.hold s)
  | .gap => ∃ g stack group, st.stack = g :: stack ∧ st.groups[g]? = some group ∧
      if group.broken then CanFlush st st.buffer else CanBreakOuter width (st.holdGap g)
  | .begin _ => ∃ g stack group, st.stack = g :: stack ∧ st.groups[g]? = some group
  | .finish _ => ∃ g stack group, st.stack = g :: stack ∧ st.groups[g]? = some group ∧
      group.depth < st.queue.length

/-- Instructions can be carried out one after the other, and what is held back then can be set. -/
def CanRun (width : Int) : State → List Instruction → Prop
  | st, [] => CanFlush st st.buffer
  | st, i :: instructions => st.CanStep width i ∧ CanRun width (st.step width i) instructions

end State

/-! ## What holds all the time -/

/-- What holds of the work in progress: `text` has been said so far, `buffer` is held back and
`stack` are the groups that have begun and not ended. -/
structure Holds (stack : List Nat) (text : List Char) (st : State) (buffer : List Item) :
    Prop where
  /-- What has been set, with line breaks for some spaces, and what is held back is the text. -/
  said : ∃ before, SetAs st.out before ∧ before ++ held buffer = text
  /-- Every group knows the number of its gaps in the buffer. -/
  counted : ∀ g, pendingOf st.groups g = gapsOf g buffer
  /-- There is a queue for every group. -/
  queued : ∀ group ∈ st.groups, group.depth < st.queue.length
  /-- The groups on the stack are there. -/
  opened : ∀ g ∈ stack, g < st.groups.length
  /-- The stack is the given one. -/
  stack_eq : st.stack = stack

/-- All that setting a gap can do, whatever has become of its group. -/
theorem emit_gap {st : State} {g : Nat} (hg : g < st.groups.length) (column : Int) (n : Nat) :
    ∃ mark queue, (st.emit column (.gap n g)).2 =
        { st with
          out := st.out ++ mark
          groups := st.groups.modify g fun group => { group with pending := group.pending - 1 }
          queue } ∧
      SetAs mark [' '] ∧ queue.length = st.queue.length := by
  have hg' : g < (st.groups.modify g fun group =>
      { group with pending := group.pending - 1 }).length := by
    rwa [List.length_modify]
  simp only [State.emit, List.getElem?_eq_getElem hg']
  split
  · exact ⟨lineBreak n, st.queue, rfl, .space n, rfl⟩
  · refine ⟨[' '], _, rfl, .refl _, ?_⟩
    split
    · exact length_removeFromQueue _ _ _
    · rfl

namespace Holds

variable {stack : List Nat} {text : List Char} {st : State} {buffer : List Item} {x : Item}

/-- When nothing is held back, the whole text has been set. -/
theorem setAs (h : Holds stack text st []) : SetAs st.out text := by
  obtain ⟨before, hset, htext⟩ := h.said
  rw [held_nil, List.append_nil] at htext
  rwa [← htext]

/-! ### Setting what is held back -/

/-- The first item of the buffer can be set: the counts say that its group waits for it. -/
theorem canEmit (h : Holds stack text st (x :: buffer)) : st.CanEmit x := by
  cases x with
  | text s => trivial
  | gap n g =>
    have hpos : 0 < pendingOf st.groups g := by
      rw [h.counted g, gapsOf_gap, if_pos rfl]
      exact Nat.succ_pos _
    obtain ⟨group, hg, hpending⟩ := exists_of_pendingOf_pos hpos
    exact ⟨group, hg, hpending, h.queued group (List.mem_of_getElem? hg)⟩

/-- **Setting an item** moves its text from the buffer to what has been set. -/
theorem emit (h : Holds stack text st (x :: buffer)) (column : Int) :
    Holds stack text (st.emit column x).2 buffer := by
  obtain ⟨before, hset, htext⟩ := h.said
  have hcan := h.canEmit
  cases x with
  | text s =>
    refine ⟨⟨before ++ s, hset.append (.refl s), ?_⟩, ?_, h.queued, h.opened, h.stack_eq⟩
    · rw [← htext, held_cons, Item.content, List.append_assoc]
    · intro g
      rw [← gapsOf_text g s, ← h.counted g]
      rfl
  | gap n g =>
    obtain ⟨group, hgroup, _⟩ := hcan
    have hg : g < st.groups.length := (List.getElem?_eq_some_iff.1 hgroup).1
    obtain ⟨mark, queue, hst, hmark, hqueue⟩ := emit_gap hg column n
    rw [hst]
    refine ⟨⟨before ++ [' '], hset.append hmark, ?_⟩, ?_, ?_, ?_, h.stack_eq⟩
    · rw [← htext, held_cons, Item.content, List.append_assoc]
    · intro g'
      rw [pendingOf_modify (k := (· - 1)) (fun _ => rfl) hg, h.counted g', gapsOf_gap]
      split
      · exact Nat.add_sub_cancel _ 1
      · rfl
    · rw [hqueue]
      refine forall_mem_modify ?_ h.queued g
      exact fun _ hdepth => hdepth
    · rw [List.length_modify]
      exact h.opened

/-- Setting the first item of the buffer leaves the work in order. -/
theorem emitFront (h : Holds stack text st (x :: buffer)) :
    Holds stack text (st.emitFront x buffer) buffer :=
  { h.emit st.outWidth with }

/-- Setting the texts at the front of the buffer leaves the work in order. -/
theorem emitTexts (h : Holds stack text st buffer) :
    Holds stack text (st.emitTexts buffer) (st.emitTexts buffer).buffer := by
  fun_induction State.emitTexts with
  | case1 st s buffer ih => exact ih h.emitFront
  | case2 st buffer _ => exact { h with }

/-- Breaking a group that has gaps in the buffer succeeds and leaves the work in order. -/
theorem breakGroup (h : Holds stack text st buffer) (g : Nat) :
    State.CanBreakGroup g st buffer ∧
      Holds stack text (State.breakGroup g st buffer) (State.breakGroup g st buffer).buffer := by
  fun_induction State.breakGroup with
  | case1 st =>
    refine ⟨.done ?_, { h with }⟩
    rw [hasPending_eq, h.counted g]
    rfl
  | case2 st x buffer hpending ih =>
    obtain ⟨hcan, hafter⟩ := ih h.emitFront
    exact ⟨.front hpending h.canEmit hcan, hafter⟩
  | case3 st x buffer hpending =>
    exact ⟨.done (Bool.eq_false_iff.2 hpending), h.emitTexts⟩

/-- Only how the groups count and how deep they are matters, not whether they are broken. -/
theorem of_unmark (h : Holds stack text st buffer) {groups : List Group} {queue : List (List Nat)}
    (hgroups : groups.map Group.unmark = st.groups.map Group.unmark)
    (hqueue : queue.length = st.queue.length) :
    Holds stack text { st with groups, queue } buffer := by
  refine ⟨h.said, ?_, ?_, ?_, h.stack_eq⟩
  · intro g
    rw [← pendingOf_map_unmark, hgroups, pendingOf_map_unmark]
    exact h.counted g
  · intro group hmem
    have hunmarked : group.unmark ∈ st.groups.map Group.unmark := by
      rw [← hgroups]
      exact List.mem_map_of_mem hmem
    obtain ⟨group', hmem', heq⟩ := List.mem_map.1 hunmarked
    calc group.depth
      _ = group'.unmark.depth := by rw [heq, Group.unmark]
      _ < st.queue.length := h.queued group' hmem'
      _ = queue.length := hqueue.symm
  · intro g hg
    have hlength := congrArg List.length hgroups
    rw [List.length_map, List.length_map] at hlength
    rw [hlength]
    exact h.opened g hg

/-- Breaking groups until the line is not too full succeeds and leaves the work in order. -/
theorem breakOuter (h : Holds stack text st st.buffer) (width : Int) :
    State.CanBreakOuter width st ∧
      Holds stack text (State.breakOuter width st) (State.breakOuter width st).buffer := by
  fun_induction State.breakOuter width st with
  | case1 st hwidth g groups queue hdequeue ih =>
    have hspec := dequeue_spec st.groups st.queue
    rw [hdequeue] at hspec
    obtain ⟨hcan, hbroken⟩ := (h.of_unmark hspec.1 hspec.2).breakGroup g
    obtain ⟨hrest, hafter⟩ := ih hbroken
    exact ⟨.round hwidth hdequeue hcan hrest, hafter⟩
  | case2 st hwidth groups queue hdequeue =>
    have hspec := dequeue_spec st.groups st.queue
    rw [hdequeue] at hspec
    exact ⟨.exhausted hwidth hdequeue, h.of_unmark hspec.1 hspec.2⟩
  | case3 st hwidth => exact ⟨.fits (Int.not_lt.1 hwidth), h⟩

/-- Items can be set one after the other until none is left. -/
theorem foldl_flushItem (h : Holds stack text st buffer) :
    State.CanFlush st buffer ∧ Holds stack text (buffer.foldl State.flushItem st) [] := by
  induction buffer generalizing st with
  | nil => exact ⟨trivial, h⟩
  | cons x buffer ih =>
    have hitem : Holds stack text (st.flushItem x) buffer := { h.emit st.outWidth with }
    obtain ⟨hcan, hafter⟩ := ih hitem
    exact ⟨⟨h.canEmit, hcan⟩, hafter⟩

/-- Emptying the buffer succeeds and leaves the work in order. -/
theorem flush (h : Holds stack text st st.buffer) :
    State.CanFlush st st.buffer ∧ Holds stack text st.flush [] := by
  obtain ⟨hcan, hafter⟩ := h.foldl_flushItem
  exact ⟨hcan, { hafter with }⟩

/-! ### Carrying out an instruction -/

/-- Text that is held back has been said. -/
theorem hold (h : Holds stack text st st.buffer) (s : List Char) :
    Holds stack (text ++ s) (st.hold s) (st.hold s).buffer := by
  obtain ⟨before, hset, htext⟩ := h.said
  refine ⟨⟨before, hset, ?_⟩, ?_, h.queued, h.opened, h.stack_eq⟩
  · rw [State.hold, held_appendText, ← List.append_assoc, htext]
  · intro g
    rw [State.hold, gapsOf_appendText]
    exact h.counted g

/-- Adding text succeeds and leaves the work in order, with the text said. -/
theorem addText (h : Holds stack text st st.buffer) (width : Int) (s : List Char) :
    st.CanStep width (.text s) ∧
      Holds stack (text ++ s) (st.addText width s) (st.addText width s).buffer := by
  obtain ⟨hcan, hafter⟩ := (h.hold s).breakOuter width
  refine ⟨fun _ => hcan, ?_⟩
  by_cases hempty : st.buffer = []
  · rw [State.addText_of_nil width s hempty]
    refine ⟨⟨text ++ s, ?_, ?_⟩, h.counted, h.queued, h.opened, h.stack_eq⟩
    · rw [hempty] at h
      exact h.setAs.append (.refl s)
    · rw [hempty, held_nil, List.append_nil]
  · rw [State.addText_of_ne_nil width s hempty]
    exact hafter

/-- The innermost group is there, and there is a queue for its depth. -/
theorem exists_top {g : Nat} (h : Holds (g :: stack) text st buffer) :
    ∃ group, st.groups[g]? = some group ∧ group.depth < st.queue.length := by
  have hg := List.getElem?_eq_getElem (h.opened g List.mem_cons_self)
  exact ⟨_, hg, h.queued _ (List.mem_of_getElem? hg)⟩

/-- The innermost group is the one on top. -/
theorem headD_stack {g : Nat} (h : Holds (g :: stack) text st buffer) : st.stack.headD 0 = g := by
  rw [h.stack_eq, List.headD_cons]

/-- A gap that is held back has been said as a space. -/
theorem holdGap {g : Nat} (h : Holds (g :: stack) text st st.buffer) :
    Holds (g :: stack) (text ++ [' ']) (st.holdGap g) (st.holdGap g).buffer := by
  obtain ⟨before, hset, htext⟩ := h.said
  have hg := h.opened g List.mem_cons_self
  refine ⟨⟨before, hset, ?_⟩, ?_, ?_, ?_, h.stack_eq⟩
  · rw [State.holdGap, held_append, ← List.append_assoc, htext]
    rfl
  · intro g'
    rw [State.holdGap, pendingOf_modify (k := (· + 1)) (fun _ => rfl) hg, h.counted g',
      gapsOf_append, gapsOf_gap]
    split <;> simp
  · refine forall_mem_modify ?_ h.queued g
    exact fun _ hdepth => hdepth
  · rw [State.holdGap, List.length_modify]
    exact h.opened

/-- Adding a gap succeeds and leaves the work in order, with a space said. -/
theorem addGap {g : Nat} (h : Holds (g :: stack) text st st.buffer) (width : Int) :
    st.CanStep width .gap ∧
      Holds (g :: stack) (text ++ [' ']) (st.addGap width) (st.addGap width).buffer := by
  obtain ⟨group, hg, _⟩ := h.exists_top
  rw [State.addGap_eq width h.stack_eq hg]
  cases hbroken : group.broken with
  | true =>
    obtain ⟨hcan, hflush⟩ := h.flush
    refine ⟨⟨g, stack, group, h.stack_eq, hg, ?_⟩, ?_⟩
    · rw [if_pos hbroken]
      exact hcan
    · exact ⟨⟨text ++ [' '], hflush.setAs.append (.space _), List.append_nil _⟩, hflush.counted,
        hflush.queued, hflush.opened, hflush.stack_eq⟩
  | false =>
    obtain ⟨hcan, hafter⟩ := h.holdGap.breakOuter width
    refine ⟨⟨g, stack, group, h.stack_eq, hg, ?_⟩, hafter⟩
    rw [hbroken]
    exact hcan

/-- Beginning a group leaves the work in order, with the group on top. -/
theorem beginGroup {g : Nat} (h : Holds (g :: stack) text st st.buffer) (indent : Nat) :
    Holds (st.groups.length :: g :: stack) text (st.beginGroup indent)
      (st.beginGroup indent).buffer := by
  obtain ⟨group, hg, _⟩ := h.exists_top
  have hst : st.beginGroup indent =
      { st with
        groups := st.groups ++ [⟨group.depth + 1, 0, false⟩]
        stack := st.groups.length :: st.stack
        queue := enqueue st.queue (group.depth + 1) st.groups.length
        indentation := st.indentation + indent } := by
    simp only [State.beginGroup, h.headD_stack, hg]
  rw [hst]
  refine ⟨h.said, ?_, ?_, ?_, by rw [h.stack_eq]⟩
  · intro g'
    rw [pendingOf_append_new]
    exact h.counted g'
  · intro group' hmem
    rw [length_enqueue]
    rcases List.mem_append.1 hmem with hmem | hmem
    · exact Nat.lt_of_lt_of_le (h.queued group' hmem) (Nat.le_max_left _ _)
    · rw [List.mem_singleton.1 hmem]
      exact Nat.le_max_right _ _
  · intro g' hmem
    rw [List.length_append]
    rcases List.mem_cons.1 hmem with rfl | hmem
    · exact Nat.lt_succ_self _
    · exact Nat.lt_succ_of_lt (h.opened g' hmem)

/-- Ending a group leaves the work in order, with the group below on top. -/
theorem finishGroup {g : Nat} (h : Holds (g :: stack) text st st.buffer) (indent : Nat) :
    Holds stack text (st.finishGroup indent) (st.finishGroup indent).buffer := by
  obtain ⟨group, hg, _⟩ := h.exists_top
  have hst : ∃ queue, queue.length = st.queue.length ∧ st.finishGroup indent =
      { st with stack := st.stack.tail, queue, indentation := st.indentation - indent } := by
    refine ⟨_, ?_, rfl⟩
    simp only [h.headD_stack, hg]
    split
    · exact length_removeFromQueue _ _ _
    · rfl
  obtain ⟨queue, hqueue, hst⟩ := hst
  rw [hst]
  refine ⟨h.said, h.counted, ?_, ?_, by rw [h.stack_eq, List.tail_cons]⟩
  · rw [hqueue]
    exact h.queued
  · intro g' hmem
    exact h.opened g' (List.mem_cons_of_mem g hmem)

/-- **One instruction** can be carried out, and adds what it says to what has been said. -/
theorem step {depth : Nat} {i : Instruction} {rest : List Instruction}
    (h : Holds stack text st st.buffer) (width : Int) (hstack : stack.length = depth + 1)
    (hnested : Nested depth (i :: rest)) :
    st.CanStep width i ∧ ∃ stack' depth', stack'.length = depth' + 1 ∧ Nested depth' rest ∧
      Holds stack' (text ++ i.content) (st.step width i) (st.step width i).buffer := by
  obtain ⟨g, stack, rfl⟩ := List.exists_cons_of_length_eq_add_one hstack
  have htop := h.exists_top
  cases i with
  | text s =>
    obtain ⟨hcan, hafter⟩ := h.addText width s
    exact ⟨hcan, _, depth, hstack, hnested, hafter⟩
  | gap =>
    obtain ⟨hcan, hafter⟩ := h.addGap width
    exact ⟨hcan, _, depth, hstack, hnested, hafter⟩
  | begin indent =>
    obtain ⟨group, hg, _⟩ := htop
    refine ⟨⟨g, stack, group, h.stack_eq, hg⟩, st.groups.length :: g :: stack, depth + 1, ?_,
      hnested, ?_⟩
    · rw [List.length_cons, hstack]
    · rw [Instruction.content, List.append_nil]
      exact h.beginGroup indent
  | finish indent =>
    obtain ⟨group, hg, hqueue⟩ := htop
    cases depth with
    | zero => cases hnested
    | succ depth =>
      refine ⟨⟨g, stack, group, h.stack_eq, hg, hqueue⟩, _, depth, Nat.succ.inj hstack, hnested, ?_⟩
      rw [Instruction.content, List.append_nil]
      exact h.finishGroup indent

/-- **All instructions** can be carried out, and say what they say. -/
theorem run {depth : Nat} {instructions : List Instruction} (h : Holds stack text st st.buffer)
    (width : Int) (hstack : stack.length = depth + 1) (hnested : Nested depth instructions) :
    st.CanRun width instructions ∧
      SetAs (instructions.foldl (State.step width) st).flush.out
        (text ++ content instructions) := by
  induction instructions generalizing stack text st depth with
  | nil =>
    obtain ⟨hcan, hflush⟩ := h.flush
    refine ⟨hcan, ?_⟩
    rw [content_nil, List.append_nil]
    exact hflush.setAs
  | cons i rest ih =>
    obtain ⟨hcan, stack', depth', hstack', hnested', hafter⟩ := h.step width hstack hnested
    obtain ⟨hrun, hset⟩ := ih hafter hstack' hnested'
    refine ⟨⟨hcan, hrun⟩, ?_⟩
    rw [content_cons, ← List.append_assoc]
    exact hset

end Holds

/-- At the beginning the work is in order, with nothing said. -/
theorem holds_initial : Holds [0] [] State.initial [] where
  said := ⟨[], .nil, rfl⟩
  counted := by
    intro g
    cases g <;> rfl
  queued := by decide
  opened := by decide
  stack_eq := rfl

/-! ## Where everything fits -/

/-- What holds as long as the text fits into a line. -/
structure Flat (text : List Char) (st : State) : Prop where
  /-- What has been set and what is held back make up the text. -/
  said : st.out ++ held st.buffer = text
  /-- The widths make up its length. -/
  width_eq : st.outWidth + st.bufferWidth = text.length
  /-- No group is broken. -/
  unbroken : ∀ group ∈ st.groups, group.broken = false

/-- No group is broken while the line is not too full. -/
theorem breakOuter_eq_self {width : Int} {st : State} (h : st.outWidth + st.bufferWidth ≤ width) :
    State.breakOuter width st = st := by
  rw [State.breakOuter, if_neg (Int.not_lt.2 h)]

/-- Without broken groups an item says what it says. -/
theorem emit_of_unbroken {st : State} (h : ∀ group ∈ st.groups, group.broken = false)
    (column : Int) (x : Item) :
    (st.emit column x).2.out = st.out ++ x.content ∧
      ∀ group ∈ (st.emit column x).2.groups, group.broken = false := by
  cases x with
  | text s => exact ⟨rfl, h⟩
  | gap n g =>
    have hgroups : ∀ group ∈ st.groups.modify g fun group =>
        { group with pending := group.pending - 1 }, group.broken = false := by
      refine forall_mem_modify ?_ h g
      exact fun _ hbroken => hbroken
    simp only [State.emit]
    split
    · next group hg =>
      rw [if_neg (by simp [hgroups group (List.mem_of_getElem? hg)])]
      exact ⟨rfl, hgroups⟩
    · exact ⟨rfl, h⟩

/-- While no group is broken, emptying the buffer sets what it says. -/
theorem out_foldl_flushItem {st : State} (h : ∀ group ∈ st.groups, group.broken = false)
    (buffer : List Item) : (buffer.foldl State.flushItem st).out = st.out ++ held buffer := by
  induction buffer generalizing st with
  | nil => exact (List.append_nil _).symm
  | cons x buffer ih =>
    obtain ⟨hout, hgroups⟩ := emit_of_unbroken h st.outWidth x
    have hitem : (st.flushItem x).out = st.out ++ x.content := hout
    have hunbroken : ∀ group ∈ (st.flushItem x).groups, group.broken = false := hgroups
    rw [List.foldl_cons, ih hunbroken, hitem, held_cons, List.append_assoc]

namespace Flat

variable {text : List Char} {st : State} {width : Int}

/-- While everything fits, what has been said is set on one line. -/
theorem flush_out (h : Flat text st) : st.flush.out = text := by
  rw [State.flush_eq, ← h.said]
  exact out_foldl_flushItem h.unbroken st.buffer

/-- Text that fits leaves everything on one line. -/
theorem addText {s : List Char} (h : Flat text st)
    (hfits : ((text ++ s).length : Int) ≤ width) : Flat (text ++ s) (st.addText width s) := by
  have hlength : ((text ++ s).length : Int) = text.length + s.length := by simp
  by_cases hempty : st.buffer = []
  · rw [State.addText_of_nil width s hempty]
    refine ⟨?_, ?_, h.unbroken⟩
    · rw [← h.said, hempty, held_nil, List.append_nil, List.append_nil]
    · rw [hlength, ← h.width_eq]
      exact Int.add_right_comm _ _ _
  · have hhold : Flat (text ++ s) (st.hold s) := by
      refine ⟨?_, ?_, h.unbroken⟩
      · rw [State.hold, held_appendText, ← List.append_assoc, h.said]
      · rw [hlength, ← h.width_eq]
        exact (Int.add_assoc _ _ _).symm
    rw [State.addText_of_ne_nil width s hempty, breakOuter_eq_self (hhold.width_eq ▸ hfits)]
    exact hhold

/-- A gap that fits leaves everything on one line. -/
theorem addGap (h : Flat text st) (hcan : st.CanStep width .gap)
    (hfits : ((text ++ [' ']).length : Int) ≤ width) : Flat (text ++ [' ']) (st.addGap width) := by
  obtain ⟨g, stack, group, hstack, hg, _⟩ := hcan
  have hunbroken := h.unbroken group (List.mem_of_getElem? hg)
  have hhold : Flat (text ++ [' ']) (st.holdGap g) := by
    refine ⟨?_, ?_, ?_⟩
    · rw [State.holdGap, held_append, ← List.append_assoc, h.said]
      rfl
    · rw [List.length_append, Int.natCast_add, ← h.width_eq]
      exact (Int.add_assoc _ _ _).symm
    · refine forall_mem_modify ?_ h.unbroken g
      exact fun _ hbroken => hbroken
  rw [State.addGap_eq width hstack hg, hunbroken, if_neg Bool.false_ne_true,
    breakOuter_eq_self (hhold.width_eq ▸ hfits)]
  exact hhold

/-- Beginning a group sets nothing. -/
theorem beginGroup (h : Flat text st) (indent : Nat) : Flat text (st.beginGroup indent) := by
  refine ⟨h.said, h.width_eq, ?_⟩
  intro group hmem
  rcases List.mem_append.1 hmem with hmem | hmem
  · exact h.unbroken group hmem
  · rw [List.mem_singleton.1 hmem]

/-- An instruction that fits leaves everything in a line. -/
theorem step {i : Instruction} (h : Flat text st) (hcan : st.CanStep width i)
    (hfits : ((text ++ i.content).length : Int) ≤ width) :
    Flat (text ++ i.content) (st.step width i) := by
  cases i with
  | text s => exact h.addText hfits
  | gap => exact h.addGap hcan hfits
  | begin indent =>
    rw [Instruction.content, List.append_nil]
    exact h.beginGroup indent
  | finish indent =>
    rw [Instruction.content, List.append_nil]
    exact { h with }

/-- Instructions that fit are set in a single line. -/
theorem run {instructions : List Instruction} (h : Flat text st)
    (hcan : st.CanRun width instructions)
    (hfits : ((text ++ content instructions).length : Int) ≤ width) :
    (instructions.foldl (State.step width) st).flush.out = text ++ content instructions := by
  induction instructions generalizing text st with
  | nil => rw [content_nil, List.append_nil, List.foldl_nil, h.flush_out]
  | cons i rest ih =>
    rw [content_cons, ← List.append_assoc] at hfits ⊢
    have hstep : ((text ++ i.content).length : Int) ≤ width := by
      rw [List.length_append] at hfits
      omega
    exact ih (h.step hcan.1 hstep) hcan.2 hfits

end Flat

/-- At the beginning everything is on one line. -/
theorem flat_initial : Flat [] State.initial where
  said := rfl
  width_eq := rfl
  unbroken := by decide

end Layout

namespace Formula

open Layout

/-- A width that is a whole number is that width. -/
theorem setWithin_int (width : Int) (f : Formula) :
    f.setWithin (.int width) = .ok (f.setIn width) := by
  have hwidth (size : Nat) : admitted size (.ofInt width) = width := Int.fdiv_one width
  rw [setWithin, Value.extent?_of_toInt? rfl]
  simp only [hwidth]

/-- **Setting in lines loses nothing.** At every width setting ends, and all that it looks for is
there; the result with each line break and the spaces behind it replaced by a space is the form with
constructors; and where this form fits into a line, it is the result, without line breaks. -/
theorem setIn_says_constructorForm (width : Int) (f : Formula) :
    f.setWithin (.int width) = .ok (f.setIn width) ∧
      State.initial.CanRun width f.layout ∧
      joinLines (f.setIn width) = f.constructorForm ∧
      ((f.constructorForm.length : Int) ≤ width →
        f.setIn width = f.constructorForm ∧ '\n' ∉ f.setIn width) := by
  have hnested : Nested 0 f.layout := by
    rw [← List.append_nil f.layout, nested_layout]
    trivial
  obtain ⟨hcan, hset⟩ := holds_initial.run width rfl hnested
  rw [List.nil_append, content_layout] at hset
  refine ⟨setWithin_int width f, hcan, f.isTidy_constructorForm.joinLines_eq hset, ?_⟩
  intro hfits
  have hline : f.setIn width = f.constructorForm := by
    have hflat := flat_initial.run hcan (by rwa [List.nil_append, content_layout])
    rwa [List.nil_append, content_layout] at hflat
  refine ⟨hline, ?_⟩
  rw [hline]
  exact f.isTidy_constructorForm.unbroken

/-- A conjunction of two atoms takes 25 characters. -/
theorem setIn_says_constructorForm_conjunction :
    let f := binary .and (atom ⟨'p', rfl⟩) (atom ⟨'q', rfl⟩)
    (f.constructorForm.length : Int) ≤ 25 ∧ f.setIn 25 = f.constructorForm ∧ '\n' ∉ f.setIn 25 := by
  intro f
  have hfits : (f.constructorForm.length : Int) ≤ 25 := by decide
  exact ⟨hfits, (setIn_says_constructorForm 25 f).2.2.2 hfits⟩

example : (binary .and (atom ⟨'p', rfl⟩) (atom ⟨'q', rfl⟩)).setIn 24 =
    "And(Atom('p'),\n    Atom('q'))".toList := by
  cbv

end Formula

end NaturalDeduction
