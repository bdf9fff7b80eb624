import Mathlib.Data.List.Chain
import NaturalDeduction.Layout
import NaturalDeduction.Proofs.RoundTrip

/-!
# What a text set in lines says

Joining the lines of a text puts a single space in the place of every line break and of the spaces
behind it (`joinLines`). Setting a text in lines puts a line break, with any indentation, in the
place of some of its spaces (`SetAs`). The one undoes the other only if the indentation cannot be
taken for spaces of the text itself, nor a line break of the text for one that was set. The form of
a formula with constructors is such a text: it has no line breaks, and a space only behind a comma
(`Formula.isTidy_constructorForm`).

The instructions for a formula say its form with constructors (`Formula.content_layout`), and every
group that ends in them has begun (`Formula.nested_layout`).
-/

namespace NaturalDeduction

namespace Layout

/-! ## Joining lines -/

/-- The text with each line break and the spaces behind it replaced by a single space. -/
def joinLines : List Char → List Char
  | [] => []
  | c :: text =>
    if c = '\n' then ' ' :: joinLines (text.dropWhile (· = ' ')) else c :: joinLines text
termination_by text => text.length
decreasing_by
  · exact Nat.lt_succ_of_le (List.dropWhile_suffix _).length_le
  · exact Nat.lt_succ_self _

/-- The first text is the second one with line breaks for some of its spaces. -/
inductive SetAs : List Char → List Char → Prop where
  /-- Nothing is left. -/
  | nil : SetAs [] []
  /-- A character stays. -/
  | keep (c : Char) {out text : List Char} : SetAs out text → SetAs (c :: out) (c :: text)
  /-- A space becomes a line break with some indentation. -/
  | lineBreak (n : Nat) {out text : List Char} :
    SetAs out text → SetAs (Layout.lineBreak n ++ out) (' ' :: text)

namespace SetAs

variable {out out' text text' : List Char}

/-- A text is set as itself on one line. -/
theorem refl (text : List Char) : SetAs text text := by
  induction text with
  | nil => exact .nil
  | cons c text ih => exact .keep c ih

/-- A line break is set for a space. -/
theorem space (n : Nat) : SetAs (Layout.lineBreak n) [' '] := by
  rw [← List.append_nil (Layout.lineBreak n)]
  exact .lineBreak n .nil

/-- Texts that are set one after the other are set as the whole. -/
theorem append (h : SetAs out text) (h' : SetAs out' text') :
    SetAs (out ++ out') (text ++ text') := by
  induction h with
  | nil => exact h'
  | keep c _ ih => exact .keep c ih
  | lineBreak n _ ih =>
    rw [List.append_assoc]
    exact .lineBreak n ih

/-- Setting a text puts no space in front of it. -/
theorem head?_ne_space (h : SetAs out text) (htext : text.head? ≠ some ' ') :
    out.head? ≠ some ' ' := by
  cases h with
  | nil => exact htext
  | keep c _ => exact htext
  | lineBreak n _ => exact absurd rfl htext

end SetAs

/-- A line break and the spaces behind it are joined to one space. -/
theorem joinLines_lineBreak (n : Nat) {out : List Char} (h : out.head? ≠ some ' ') :
    joinLines (lineBreak n ++ out) = ' ' :: joinLines out := by
  have hout : out.dropWhile (· = ' ') = out := by
    cases out with
    | nil => rfl
    | cons c out =>
      have hc : c ≠ ' ' := by simpa using h
      exact List.dropWhile_cons_of_neg (by simpa using hc)
  have hspaces : (List.replicate n ' ' ++ out).dropWhile (· = ' ') = out := by
    rw [List.dropWhile_append_of_pos (by simp), hout]
  rw [lineBreak, List.cons_append, joinLines, if_pos rfl, hspaces]

/-- Joining the lines gives the text back, if it has no line breaks and no two spaces in a row. -/
theorem SetAs.joinLines_eq {out text : List Char} (h : SetAs out text) (hbreak : '\n' ∉ text)
    (hspace : text.IsChain fun c d => c = ' ' → d ≠ ' ') : joinLines out = text := by
  induction h with
  | nil => rw [joinLines]
  | keep c _ ih =>
    rw [List.mem_cons, not_or] at hbreak
    rw [joinLines, if_neg (Ne.symm hbreak.1), ih hbreak.2 hspace.tail]
  | @lineBreak n out text h ih =>
    have hhead : text.head? ≠ some ' ' := by
      cases text with
      | nil => simp
      | cons d text =>
        have hd := (List.isChain_cons_cons.1 hspace).1 rfl
        simpa using hd
    rw [joinLines_lineBreak n (h.head?_ne_space hhead),
      ih (List.not_mem_of_not_mem_cons hbreak) hspace.tail]

/-! ## Texts that can be set in lines -/

/-- A text without line breaks, with spaces only behind commas. -/
structure IsTidy (text : List Char) : Prop where
  /-- There are no line breaks. -/
  unbroken : '\n' ∉ text
  /-- The text does not begin with a space. -/
  head : text.head? ≠ some ' '
  /-- In front of a space is a comma. -/
  spaced : text.IsChain fun c d => d = ' ' → c = ','

namespace IsTidy

variable {text text' : List Char}

/-- Two tidy texts make a tidy text. -/
theorem append (h : IsTidy text) (h' : IsTidy text') : IsTidy (text ++ text') where
  unbroken := by
    rw [List.mem_append, not_or]
    exact ⟨h.unbroken, h'.unbroken⟩
  head := by
    cases text with
    | nil => exact h'.head
    | cons c text => exact h.head
  spaced := by
    refine List.isChain_append.2 ⟨h.spaced, h'.spaced, ?_⟩
    rintro c _ d hd rfl
    exact absurd (Option.mem_def.1 hd) h'.head

/-- A text without blanks is tidy. -/
theorem of_not_isBlank (h : text.any Text.isBlank = false) : IsTidy text where
  unbroken := by
    intro hmem
    exact List.any_eq_false.1 h '\n' hmem (by decide)
  head := by
    intro hhead
    exact List.any_eq_false.1 h ' ' (List.mem_of_mem_head? hhead) (by decide)
  spaced := by
    refine List.Pairwise.isChain (List.pairwise_of_forall_mem_list ?_)
    rintro c _ d hd rfl
    exact (List.any_eq_false.1 h ' ' hd (by decide)).elim

/-- The sign between two arguments is tidy. -/
theorem comma : IsTidy [',', ' '] where
  unbroken := by decide
  head := by decide
  spaced := by decide

/-- Joining the lines of a tidy text that was set gives the text back. -/
theorem joinLines_eq {out : List Char} (h : IsTidy text) (hset : SetAs out text) :
    joinLines out = text := by
  refine hset.joinLines_eq h.unbroken (h.spaced.imp ?_)
  rintro c d hd rfl rfl
  exact absurd (hd rfl) (by decide)

end IsTidy

/-! ## What instructions say -/

/-- The text that an instruction says when lines do not matter. -/
def Instruction.content : Instruction → List Char
  | .text s => s
  | .gap => [' ']
  | .begin _ => []
  | .finish _ => []

/-- The text that instructions say when lines do not matter. -/
def content (instructions : List Instruction) : List Char :=
  instructions.flatMap Instruction.content

/-- No instructions say nothing. -/
@[simp] theorem content_nil : content [] = [] := rfl

/-- The first instruction says its text first. -/
@[simp] theorem content_cons (i : Instruction) (instructions : List Instruction) :
    content (i :: instructions) = i.content ++ content instructions := rfl

/-- Instructions say one after the other what they say. -/
@[simp] theorem content_append (instructions rest : List Instruction) :
    content (instructions ++ rest) = content instructions ++ content rest :=
  List.flatMap_append

/-- With so many groups that have begun, no group ends that has not begun. -/
def Nested : Nat → List Instruction → Prop
  | _, [] => True
  | depth, .text _ :: rest => Nested depth rest
  | depth, .gap :: rest => Nested depth rest
  | depth, .begin _ :: rest => Nested (depth + 1) rest
  | 0, .finish _ :: _ => False
  | depth + 1, .finish _ :: rest => Nested depth rest

end Layout

/-- Letters are tidy. -/
theorem Letter.isTidy (a : Letter) : Layout.IsTidy [a.char] :=
  .of_not_isBlank (by simp [a.isBlank_char])

namespace Formula

open Layout

/-! ## The instructions for a formula -/

/-- The instructions for a formula say its form with constructors. -/
theorem content_layout (f : Formula) : content f.layout = f.constructorForm := by
  induction f with
  | atom a => simp [layout, standing, Instruction.content]
  | predicate P t ts => simp [layout, standing, Instruction.content]
  | not f ih => simp [layout, standing, constructed, Instruction.content, constructorForm, ih]
  | binary op l r ihl ihr =>
    simp [layout, standing, constructed, Instruction.content, constructorForm, ihl, ihr]
  | quantified q v f ih =>
    simp [layout, standing, constructed, named, Instruction.content, constructorForm, ih]

/-- The instructions for a formula end the groups that they begin, and no others. -/
theorem nested_layout (f : Formula) (depth : Nat) (rest : List Instruction) :
    Nested depth (f.layout ++ rest) ↔ Nested depth rest := by
  induction f generalizing depth rest with
  | atom a => simp [layout, standing, Nested]
  | predicate P t ts => simp [layout, standing, Nested]
  | not f ih => simp [layout, standing, constructed, Nested, ih]
  | binary op l r ihl ihr => simp [layout, standing, constructed, Nested, ihl, ihr]
  | quantified q v f ih => simp [layout, standing, constructed, named, Nested, ih]

/-! ## The form with constructors is tidy -/

/-- Tidy texts are tidy between quotation marks. -/
theorem isTidy_marked {s : List Char} (h : IsTidy s) : IsTidy (marked s) := by
  have hmark : IsTidy ['\x27'] := .of_not_isBlank (by decide)
  exact hmark.append (h.append hmark)

/-- A constructor with tidy arguments is tidy. -/
theorem isTidy_arguments (f : Formula) {arguments : List Char} (h : IsTidy arguments) :
    IsTidy (f.constructorName ++ '(' :: (arguments ++ [')'])) := by
  have hname : IsTidy f.constructorName := by
    refine .of_not_isBlank ?_
    unfold constructorName Former.name
    split <;> decide
  have hopen : IsTidy ['('] := .of_not_isBlank (by decide)
  exact hname.append (hopen.append (h.append (.of_not_isBlank (by decide))))

/-- Two tidy arguments are tidy together. -/
theorem isTidy_pair {first second : List Char} (h : IsTidy first) (h' : IsTidy second) :
    IsTidy (first ++ ',' :: ' ' :: second) :=
  h.append (IsTidy.comma.append h')

/-- Terms are tidy. -/
theorem isTidy_chars (t : Term) : IsTidy t.chars := by
  unfold Term.chars
  generalize t.head = a
  generalize t.tail = as
  induction as generalizing a with
  | nil => exact a.isTidy
  | cons b bs ih =>
    have hcomma : IsTidy [','] := .of_not_isBlank (by decide)
    exact a.isTidy.append (hcomma.append (ih b))

/-- Further terms in a list leave the list tidy. -/
theorem isTidy_flatMap_terms {first : List Char} (h : IsTidy first) (ts : List Term) :
    IsTidy (first ++ ts.flatMap fun t => ',' :: ' ' :: marked t.chars) := by
  induction ts generalizing first with
  | nil => simpa using h
  | cons t ts ih =>
    rw [List.flatMap_cons, ← List.append_assoc]
    exact ih (isTidy_pair h (isTidy_marked (isTidy_chars t)))

/-- The list of terms is tidy. -/
theorem isTidy_termsForm (t : Term) (ts : List Term) : IsTidy (termsForm t ts) := by
  have hopen : IsTidy ['('] := .of_not_isBlank (by decide)
  have ht := isTidy_marked (isTidy_chars t)
  cases ts with
  | nil => exact hopen.append (ht.append (.of_not_isBlank (by decide)))
  | cons t' ts =>
    exact hopen.append ((isTidy_flatMap_terms ht (t' :: ts)).append (.of_not_isBlank (by decide)))

/-- The form with constructors is tidy. -/
theorem isTidy_constructorForm (f : Formula) : IsTidy f.constructorForm := by
  induction f with
  | atom a => exact isTidy_arguments _ (isTidy_marked a.isTidy)
  | predicate P t ts =>
    have hP : IsTidy [P.char] := .of_not_isBlank (by simp [P.isBlank_char])
    simpa [constructorForm] using isTidy_arguments (predicate P t ts)
      (isTidy_pair (isTidy_marked hP) (isTidy_termsForm t ts))
  | not f ih => exact isTidy_arguments _ ih
  | binary op l r ihl ihr =>
    simpa [constructorForm] using isTidy_arguments (binary op l r) (isTidy_pair ihl ihr)
  | quantified q v f ih =>
    simpa [constructorForm] using
      isTidy_arguments (quantified q v f) (isTidy_pair (isTidy_marked v.isTidy) ih)

end Formula

end NaturalDeduction
