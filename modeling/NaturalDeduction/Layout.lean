import NaturalDeduction.Formula.Construct
import NaturalDeduction.Formula.Printer

/-!
# Setting text in lines of a given width

A text made of groups is set in lines. It comes as a list of instructions: pieces of text, gaps, and
the beginning and end of groups. A gap is a space or a line break, and all gaps of a group that
start after the group was broken are line breaks. Text is held back in a buffer until it is known
whether it fits; when it does not, groups are broken, the outermost first (`State.breakOuter`).

Each group is entered in a queue for its depth when it begins. Breaking takes from the first queue
that has a group with gaps in the buffer. It looks from the latest group to the earliest, and it
takes the entry at the same distance from the other end out of the queue, which need not be the
entry of the group. Emptying the buffer at the end or before a line break adds each item's column to
the width used (`State.flush`). Both change where lines end and never what they say.

`Formula.layout` gives the instructions for a formula, and `Formula.setIn` sets them. The loop that
breaks groups ends because each round takes an entry from the queues (`queueSize_dequeue`).
-/

namespace NaturalDeduction

namespace Layout

/-- The instructions. -/
inductive Instruction where
  /-- A piece of text. -/
  | text (s : List Char)
  /-- A space or a line break. -/
  | gap
  /-- A group begins, and lines are indented by so much more. -/
  | begin (indent : Nat)
  /-- The group ends, and lines are indented by so much less. -/
  | finish (indent : Nat)

/-- What is held back. -/
inductive Item where
  /-- Text. -/
  | text (s : List Char)
  /-- A gap of a group, and how far the next line is indented if it becomes a line break. -/
  | gap (indentation group : Nat)

/-- A group. -/
structure Group where
  /-- The number of groups around it. -/
  depth : Nat
  /-- The number of its gaps in the buffer. -/
  pending : Nat
  /-- Whether its gaps are line breaks. -/
  broken : Bool
deriving Inhabited

/-- The work in progress. -/
structure State where
  /-- What has been set. -/
  out : List Char
  /-- The width used in the last line of it. -/
  outWidth : Int
  /-- The width of what is held back. -/
  bufferWidth : Int
  /-- How far a new line is indented. -/
  indentation : Nat
  /-- What is held back. -/
  buffer : List Item
  /-- All groups so far, by their numbers. -/
  groups : List Group
  /-- The groups that have begun and not ended; the innermost comes first. -/
  stack : List Nat
  /-- For each depth, the groups that may be broken. -/
  queue : List (List Nat)

/-- The start: one group around everything. -/
def State.initial : State where
  out := []
  outWidth := 0
  bufferWidth := 0
  indentation := 0
  buffer := []
  groups := [⟨0, 0, false⟩]
  stack := [0]
  queue := [[0]]

/-! ## The queues -/

/-- The number of entries in all queues. -/
def queueSize : List (List Nat) → Nat
  | [] => 0
  | level :: queue => level.length + queueSize queue

/-- Marks a group as broken. -/
def markBroken (groups : List Group) (g : Nat) : List Group :=
  groups.modify g fun group => { group with broken := true }

/-- Whether a group has gaps in the buffer. -/
def hasPending (groups : List Group) (g : Nat) : Bool :=
  match groups[g]? with
  | some group => 0 < group.pending
  | none => false

/-- The group to break next, the groups and the queues afterwards. Queues without a group to break
are emptied on the way, and their groups are marked. -/
def dequeue (groups : List Group) : List (List Nat) → Option Nat × List Group × List (List Nat)
  | [] => (none, groups, [])
  | level :: queue =>
    match level.reverse.findIdx? (hasPending groups) with
    | some i =>
      let g := level.reverse.getD i 0
      (some g, markBroken groups g, level.eraseIdx i :: queue)
    | none =>
      let (found, groups, queue) := dequeue (level.foldl markBroken groups) queue
      (found, groups, [] :: queue)

/-- Each group that is found takes an entry from the queues. -/
theorem queueSize_dequeue {groups groups' : List Group} {queue queue' : List (List Nat)} {g : Nat}
    (h : dequeue groups queue = (some g, groups', queue')) :
    queueSize queue' < queueSize queue := by
  induction queue generalizing groups groups' queue' with
  | nil => simp [dequeue] at h
  | cons level queue ih =>
    simp only [dequeue] at h
    split at h
    · next i hi =>
      simp only [Prod.mk.injEq] at h
      obtain ⟨hlt, -⟩ := List.findIdx?_eq_some_iff_getElem.1 hi
      rw [← h.2.2]
      simp only [List.length_reverse] at hlt
      simp only [queueSize, List.length_eraseIdx, hlt, if_true]
      omega
    · simp only [Prod.mk.injEq] at h
      have := @ih (level.foldl markBroken groups) _ _ (Prod.ext h.1 (Prod.ext rfl rfl))
      rw [← h.2.2]
      simp only [queueSize, List.length_nil] at this ⊢
      omega

/-- Takes a group out of the queue for its depth. -/
def removeFromQueue (queue : List (List Nat)) (depth g : Nat) : List (List Nat) :=
  queue.modify depth fun level => level.erase g

/-- Enters a group in the queue for its depth. -/
def enqueue (queue : List (List Nat)) (depth g : Nat) : List (List Nat) :=
  let filled := queue ++ List.replicate (depth + 1 - queue.length) []
  filled.modify depth fun level => level ++ [g]

/-! ## Setting -/

/-- The width of an item. -/
def Item.width : Item → Nat
  | .text s => s.length
  | .gap _ _ => 1

/-- A line break with the indentation of the next line. -/
def lineBreak (indentation : Nat) : List Char :=
  '\n' :: List.replicate indentation ' '

namespace State

/-- Sets an item when `column` characters stand in the line. Gives the column after it. -/
def emit (st : State) (column : Int) : Item → Int × State
  | .text s => (column + s.length, { st with out := st.out ++ s })
  | .gap indentation g =>
    let groups := st.groups.modify g fun group => { group with pending := group.pending - 1 }
    match groups[g]? with
    | some group =>
      if group.broken then
        (indentation, { st with out := st.out ++ lineBreak indentation, groups })
      else
        let queue := if group.pending = 0 then removeFromQueue st.queue group.depth g else st.queue
        (column + 1, { st with out := st.out ++ [' '], groups, queue })
    | none => (column + 1, { st with out := st.out ++ [' '] })

/-- Sets an item from the front of the buffer. -/
def emitFront (st : State) (x : Item) (buffer : List Item) : State :=
  let (column, st) := st.emit st.outWidth x
  { st with outWidth := column, bufferWidth := st.bufferWidth - x.width, buffer }

/-- Sets the text at the front of the buffer. -/
def emitTexts (st : State) : List Item → State
  | .text s :: buffer => (st.emitFront (.text s) buffer).emitTexts buffer
  | buffer => { st with buffer }

/-- Sets the buffer up to the last gap of a group, and the text after it. -/
def breakGroup (g : Nat) (st : State) : List Item → State
  | [] => { st with buffer := [] }
  | x :: buffer =>
    if hasPending st.groups g then breakGroup g (st.emitFront x buffer) buffer
    else st.emitTexts (x :: buffer)

/-- Emitting an item adds nothing to the queue of groups. -/
theorem queue_size_emit_le (st : State) (column : Int) (x : Item) :
    queueSize (st.emit column x).2.queue ≤ queueSize st.queue := by
  have hle (queue : List (List Nat)) (depth g : Nat) :
      queueSize (removeFromQueue queue depth g) ≤ queueSize queue := by
    unfold removeFromQueue
    induction queue generalizing depth with
    | nil => simp
    | cons level queue ih =>
      cases depth with
      | zero =>
        have := List.length_erase_le (a := g) (l := level)
        simp [queueSize] at *
        omega
      | succ depth =>
        have := ih depth
        simp [queueSize] at *
        omega
  cases x with
  | text s => simp [emit]
  | gap indentation g =>
    simp only [emit]
    split
    · split
      · simp
      · split
        · exact hle _ _ _
        · simp
    · simp

/-- Emitting the front of the buffer adds nothing to the queue of groups. -/
theorem queue_size_emitFront_le (st : State) (x : Item) (buffer : List Item) :
    queueSize (st.emitFront x buffer).queue ≤ queueSize st.queue :=
  st.queue_size_emit_le st.outWidth x

/-- Emitting the texts in front of a break adds nothing to the queue of groups. -/
theorem queue_size_emitTexts_le (st : State) (buffer : List Item) :
    queueSize (st.emitTexts buffer).queue ≤ queueSize st.queue := by
  induction buffer generalizing st with
  | nil => simp [emitTexts]
  | cons x buffer ih =>
    cases x with
    | text s =>
      simp only [emitTexts]
      exact Nat.le_trans (ih _) (st.queue_size_emitFront_le _ _)
    | gap indentation g => simp [emitTexts]

/-- Breaking a group adds nothing to the queue of groups. -/
theorem queue_size_breakGroup_le (g : Nat) (st : State) (buffer : List Item) :
    queueSize (breakGroup g st buffer).queue ≤ queueSize st.queue := by
  induction buffer generalizing st with
  | nil => simp [breakGroup]
  | cons x buffer ih =>
    simp only [breakGroup]
    split
    · exact Nat.le_trans (ih _) (st.queue_size_emitFront_le _ _)
    · exact st.queue_size_emitTexts_le _

/-- Breaks groups until what is held back fits into the line, or until no group is left. -/
def breakOuter (width : Int) (st : State) : State :=
  if width < st.outWidth + st.bufferWidth then
    match _h : dequeue st.groups st.queue with
    | (some g, groups, queue) => breakOuter width (breakGroup g { st with groups, queue } st.buffer)
    | (none, groups, queue) => { st with groups, queue }
  else st
termination_by queueSize st.queue
decreasing_by
  exact Nat.lt_of_le_of_lt (queue_size_breakGroup_le _ _ _) (queueSize_dequeue _h)

/-- Sets all that is held back. -/
def flush (st : State) : State :=
  let st' := st.buffer.foldl (fun st x =>
    let (column, st') := st.emit st.outWidth x
    { st' with outWidth := st.outWidth + column }) st
  { st' with buffer := [], bufferWidth := 0 }

/-- Text at the end of a buffer; it joins the text that stands there. -/
def appendText (s : List Char) : List Item → List Item
  | [] => [.text s]
  | [.text t] => [.text (t ++ s)]
  | x :: buffer => x :: appendText s buffer

/-- A piece of text: set at once if nothing is held back, and otherwise held back too. -/
def addText (width : Int) (st : State) (s : List Char) : State :=
  if st.buffer.isEmpty then { st with out := st.out ++ s, outWidth := st.outWidth + s.length }
  else
    breakOuter width
      { st with buffer := appendText s st.buffer, bufferWidth := st.bufferWidth + s.length }

/-- A gap of the innermost group. -/
def addGap (width : Int) (st : State) : State :=
  let g := st.stack.headD 0
  match st.groups[g]? with
  | none => st
  | some group =>
    if group.broken then
      let st := st.flush
      { st with
        out := st.out ++ lineBreak st.indentation
        outWidth := st.indentation
        bufferWidth := 0 }
    else
      breakOuter width
        { st with
          buffer := st.buffer ++ [.gap st.indentation g]
          groups := st.groups.modify g fun group => { group with pending := group.pending + 1 }
          bufferWidth := st.bufferWidth + 1 }

/-- A group begins. -/
def beginGroup (st : State) (indent : Nat) : State :=
  let depth :=
    match st.groups[st.stack.headD 0]? with
    | some group => group.depth + 1
    | none => 0
  let g := st.groups.length
  { st with
    groups := st.groups ++ [⟨depth, 0, false⟩]
    stack := g :: st.stack
    queue := enqueue st.queue depth g
    indentation := st.indentation + indent }

/-- The innermost group ends. Without gaps in the buffer it is not to be broken any more. -/
def finishGroup (st : State) (indent : Nat) : State :=
  let g := st.stack.headD 0
  let queue :=
    match st.groups[g]? with
    | some group => if group.pending = 0 then removeFromQueue st.queue group.depth g else st.queue
    | none => st.queue
  { st with stack := st.stack.tail, queue, indentation := st.indentation - indent }

/-- Carries out an instruction. -/
def step (width : Int) (st : State) : Instruction → State
  | .text s => st.addText width s
  | .gap => st.addGap width
  | .begin indent => st.beginGroup indent
  | .finish indent => st.finishGroup indent

end State

/-- Sets instructions in lines. -/
def set (width : Int) (instructions : List Instruction) : List Char :=
  (instructions.foldl (State.step width) State.initial).flush.out

end Layout

namespace Formula

open Layout (Instruction)

/-- The instructions for a thing that stands on its own: a group without indentation. -/
def standing (body : List Instruction) : List Instruction :=
  .begin 0 :: (body ++ [.finish 0])

/-- The instructions for a name, which is a group of its own where it stands. -/
def named (name : List Char) : List Instruction :=
  standing (standing [.text (marked name)])

/-- The instructions for a constructor around its arguments. -/
def constructed (name : List Char) (arguments : List Instruction) : List Instruction :=
  .text (name ++ ['(']) :: .begin (name.length + 1) ::
    (arguments ++ [.finish (name.length + 1), .text [')']])

/-- The instructions for the form with constructors: a group for each constructor, and a gap after
each comma. -/
def layout : Formula → List Instruction
  | f@(atom _) => standing [.text f.constructorForm]
  | f@(predicate _ _ _) => standing [.text f.constructorForm]
  | f@(not g) => standing (constructed f.constructorName g.layout)
  | f@(binary _ l r) =>
    standing (constructed f.constructorName (l.layout ++ .text [','] :: .gap :: r.layout))
  | f@(quantified _ v g) =>
    standing (constructed f.constructorName
      (named [v.char] ++ .text [','] :: .gap :: g.layout))

/-- The form with constructors in lines of a given width. -/
def setIn (width : Int) (f : Formula) : List Char :=
  Layout.set width f.layout

/-- Whether there is a gap in the form with constructors: between the operands of a connective, or
behind the variable of a quantifier. -/
def hasGap : Formula → Bool
  | .atom _ => false
  | .predicate _ _ _ => false
  | .not f => f.hasGap
  | .binary _ _ _ => true
  | .quantified _ _ _ => true

/-- The form with constructors in lines whose width is a value. A width that is no number is noticed
at the first gap. -/
def setWithin (width : Value) (f : Formula) : Except Error (List Char) :=
  match width.extent? with
  | some e => .ok (f.setIn (admitted f.constructorForm.length e))
  | none => if f.hasGap then .error .wrongKind else .ok (f.setIn 0)

end Formula

end NaturalDeduction
