import NaturalDeduction.English.Sentence
import NaturalDeduction.Proofs.Phrases

/-!
# Sentences in different spellings

The words of a sentence are replaced in turns, each by one of ten replacements, so that after some
of them a sentence is still the same tree with some of its words spelled in symbols already
(`English.Sentence.write`, `English.Word.spelling`). At first all words are English
(`English.Sentence.write_english`). In the end all are symbols, and the sentence is the pretty form
of its formula (`English.Sentence.write_symbols`), unless an `if` stands directly after `implies`.
Such an `if` is exposed, and its symbols are those of the converse conditional, which make the text
longer than the formula (`English.Sentence.length_write_symbols`).
-/

namespace NaturalDeduction.English

/-! ## Words -/

/-- The words of a sentence other than its letters. -/
inductive Word where
  /-- In front of what is negated. -/
  | not
  /-- Between conjuncts. -/
  | and
  /-- Between disjuncts. -/
  | or
  /-- Between the sides of a biconditional. -/
  | ifAndOnlyIf
  /-- Between the sides of a conditional. -/
  | onlyIf
  /-- Between the sides of a conditional. -/
  | implies
  /-- The `if` in front of an antecedent. It is exposed if nothing but parentheses stands between it
  and an `implies` before it. -/
  | antecedent (exposed : Bool)
  /-- The `then` between antecedent and consequent. -/
  | consequent
deriving DecidableEq

namespace Word

/-- Whether a word stands between two operands. -/
def isInfix : Word → Bool
  | not => false
  | antecedent _ => false
  | _ => true

/-- Whether an `if` directly after the word is taken for the converse conditional. -/
def exposes : Word → Bool
  | implies => true
  | _ => false

/-- The word without the blanks around it. -/
def phrase : Word → List Char
  | not => "not".toList
  | and => "and".toList
  | or => "or".toList
  | ifAndOnlyIf => "if and only if".toList
  | onlyIf => "only if".toList
  | implies => "implies".toList
  | antecedent _ => "if".toList
  | consequent => "then".toList

/-- The blanks before the word. -/
def lead (w : Word) : List Char :=
  if w.isInfix then [' '] else []

/-- The word with the blanks around it. -/
def english (w : Word) : List Char :=
  w.lead ++ w.phrase ++ [' ']

/-- What the word is replaced by in the end. -/
def symbols : Word → List Char
  | not => "~".toList
  | and => " & ".toList
  | or => " V ".toList
  | ifAndOnlyIf => " <-> ".toList
  | onlyIf => " -> ".toList
  | implies => " -> ".toList
  | antecedent false => []
  | antecedent true => "<- ".toList
  | consequent => " -> ".toList

/-- The number of the replacement that replaces the word. -/
def turn : Word → Nat
  | ifAndOnlyIf => 0
  | onlyIf => 1
  | antecedent true => 2
  | or => 3
  | and => 4
  | consequent => 5
  | not => 6
  | implies => 8
  | antecedent false => 9

/-- The word after the first `n` replacements. -/
def spelling (n : Nat) (w : Word) : List Char :=
  if w.turn < n then w.symbols else w.english

/-- A pass for another word leaves the spelling. -/
theorem spelling_succ {n : Nat} {w : Word} (h : w.turn ≠ n) :
    w.spelling (n + 1) = w.spelling n := by
  have hiff : w.turn < n + 1 ↔ w.turn < n := by omega
  simp only [spelling, hiff]

/-- Up to its turn a word is spelled in English. -/
theorem spelling_turn (w : Word) : w.spelling w.turn = w.english := by
  simp [spelling]

/-- After its turn a word is spelled with symbols. -/
theorem spelling_turn_succ (w : Word) : w.spelling (w.turn + 1) = w.symbols := by
  simp [spelling]

/-- No spelling of an infix word goes on the word before it. -/
theorem startsWithWord_spelling {w : Word} (h : w.isInfix = true) (n : Nat) (rest : List Char) :
    startsWithWord (w.spelling n ++ rest) = false := by
  unfold spelling
  split <;> cases w <;> first | rfl | cases h

/-- All words. -/
def all : List Word :=
  [not, and, or, ifAndOnlyIf, onlyIf, implies, antecedent false, antecedent true, consequent]

/-- The list has all words. -/
theorem mem_all (w : Word) : w ∈ all := by
  rcases w with _ | _ | _ | _ | _ | _ | (_ | _) | _ <;> decide

/-- Whether the word is left alone by a replacement for another phrase, because it is not its turn
and the phrase does not come in it. -/
def stays (n : Nat) (phrase : List Char) (w : Word) : Bool :=
  w.turn != n && lacksPhrase phrase (w.spelling n)

/-- Whether the others stay when it is the turn of the word. -/
def othersStay (w : Word) : Bool :=
  all.all fun v => v == w || v.stays w.turn w.phrase

/-- If all other words stay in a pass, a word that does not is the one the pass is for. -/
theorem eq_of_othersStay {v w : Word} (h : w.othersStay = true)
    (hv : v.stays w.turn w.phrase = false) : v = w := by
  have := List.all_eq_true.1 h v v.mem_all
  rw [hv, Bool.or_false] at this
  exact beq_iff_eq.1 this

end Word

/-! ## Sentences in different spellings -/

namespace Sentence

/-- A sentence with its words in a given spelling. It may stand directly after `implies`. -/
def write (spell : Word → List Char) : (exposed : Bool) → Sentence → List Char
  | _, letter a => [a.char]
  | _, not s => spell .not ++ s.enclose (s.write spell false)
  | e, and l r => l.enclose (l.write spell e) ++ spell .and ++ r.enclose (r.write spell false)
  | e, or l r => l.enclose (l.write spell e) ++ spell .or ++ r.enclose (r.write spell false)
  | e, ifAndOnlyIf l r =>
    l.enclose (l.write spell e) ++ spell .ifAndOnlyIf ++ r.enclose (r.write spell false)
  | e, conditional .ifThen l r =>
    spell (.antecedent e) ++ l.enclose (l.write spell false) ++ spell .consequent ++
      r.enclose (r.write spell false)
  | e, conditional .onlyIf l r =>
    l.enclose (l.write spell e) ++ spell .onlyIf ++ r.enclose (r.write spell false)
  | e, conditional .implies l r =>
    l.enclose (l.write spell e) ++ spell .implies ++ r.enclose (r.write spell true)

/-- How many `if` are exposed in a sentence, which may stand directly after `implies`. -/
def exposedCount : (exposed : Bool) → Sentence → Nat
  | _, letter _ => 0
  | _, not s => s.exposedCount false
  | e, and l r => l.exposedCount e + r.exposedCount false
  | e, or l r => l.exposedCount e + r.exposedCount false
  | e, ifAndOnlyIf l r => l.exposedCount e + r.exposedCount false
  | e, conditional .ifThen l r => e.toNat + (l.exposedCount false + r.exposedCount false)
  | e, conditional .onlyIf l r => l.exposedCount e + r.exposedCount false
  | e, conditional .implies l r => l.exposedCount e + r.exposedCount true

/-- What the sentences with one word between two operands have in common. -/
structure Joins (w : Word) (l r s : Sentence) : Prop where
  /-- The word stands between operands. -/
  isInfix : w.isInfix = true
  /-- It does so in all spellings. -/
  write_eq : ∀ spell e, s.write spell e =
    l.enclose (l.write spell e) ++ spell w ++ r.enclose (r.write spell w.exposes)
  /-- It does so in English. -/
  chars_eq : s.chars = l.enclose l.chars ++ w.english ++ r.enclose r.chars
  /-- Its symbols are those of a connective. -/
  formula_eq : ∃ op : Connective, s.formula = .binary op l.formula r.formula ∧
    op.chars .wide = w.symbols
  /-- The right operand stands directly after the word. -/
  exposedCount_eq : ∀ e, s.exposedCount e = l.exposedCount e + r.exposedCount w.exposes
  /-- Only a conditional that is said with `implies` exposes what comes after the word. -/
  styles_eq : ∃ own, s.styles = own ++ (l.styles ++ r.styles) ∧
    (w.exposes = true → .implies ∈ own)

/-- Induction over sentences in which the words between operands are treated alike. -/
theorem joins_induction {motive : Sentence → Prop} (letter : ∀ a, motive (.letter a))
    (not : ∀ s, motive s → motive (.not s))
    (ifThen : ∀ l r, motive l → motive r → motive (.conditional .ifThen l r))
    (joins : ∀ w l r s, Joins w l r s → motive l → motive r → motive s) (s : Sentence) :
    motive s := by
  have hnone : false = true → Style.implies ∈ ([] : List Style) := by simp
  induction s with
  | letter a => exact letter a
  | not s ih => exact not s ih
  | and l r ihl ihr =>
    exact joins .and l r _ ⟨rfl, fun _ _ => rfl, rfl, ⟨.and, rfl, rfl⟩, fun _ => rfl,
      ⟨[], rfl, hnone⟩⟩ ihl ihr
  | or l r ihl ihr =>
    exact joins .or l r _ ⟨rfl, fun _ _ => rfl, rfl, ⟨.or, rfl, rfl⟩, fun _ => rfl,
      ⟨[], rfl, hnone⟩⟩ ihl ihr
  | ifAndOnlyIf l r ihl ihr =>
    exact joins .ifAndOnlyIf l r _ ⟨rfl, fun _ _ => rfl, rfl, ⟨.equivalent, rfl, rfl⟩, fun _ => rfl,
      ⟨[], rfl, hnone⟩⟩ ihl ihr
  | conditional style l r ihl ihr =>
    cases style with
    | ifThen => exact ifThen l r ihl ihr
    | onlyIf =>
      exact joins .onlyIf l r _ ⟨rfl, fun _ _ => rfl, rfl, ⟨.implies, rfl, rfl⟩, fun _ => rfl,
        ⟨[.onlyIf], rfl, fun h => absurd h (by decide)⟩⟩ ihl ihr
    | implies =>
      exact joins .implies l r _ ⟨rfl, fun _ _ => rfl, rfl, ⟨.implies, rfl, rfl⟩, fun _ => rfl,
        ⟨[.implies], rfl, fun _ => List.mem_cons_self⟩⟩ ihl ihr

/-- At first all words are English. -/
theorem write_english (s : Sentence) (e : Bool) : s.write (Word.spelling 0) e = s.chars := by
  induction s using joins_induction generalizing e with
  | letter a => rfl
  | not s ih =>
    show Word.english .not ++ s.enclose (s.write _ false) =
      Word.english .not ++ s.enclose s.chars
    rw [ih]
  | ifThen l r ihl ihr =>
    show Word.english (.antecedent e) ++ l.enclose (l.write _ false) ++
        Word.english .consequent ++ r.enclose (r.write _ false) =
      Word.english (.antecedent e) ++ l.enclose l.chars ++ Word.english .consequent ++
        r.enclose r.chars
    rw [ihl, ihr]
  | joins w l r s hs ihl ihr =>
    rw [hs.write_eq, hs.chars_eq, ihl, ihr]
    rfl

/-- The formula of a sentence is put in parentheses where the sentence is. -/
theorem enclose_formula (s : Sentence) :
    s.enclose (s.formula.chars .wide) = s.formula.operandChars .wide := by
  cases s <;> rfl

/-- Each exposed `if` leaves three characters. -/
theorem length_write_symbols (s : Sentence) (e : Bool) :
    (s.write Word.symbols e).length = (s.formula.chars .wide).length + 3 * s.exposedCount e := by
  have henclose : ∀ (s : Sentence) (e : Bool),
      (s.write Word.symbols e).length = (s.formula.chars .wide).length + 3 * s.exposedCount e →
        (s.enclose (s.write Word.symbols e)).length =
          (s.formula.operandChars .wide).length + 3 * s.exposedCount e := by
    intro s e hs
    rw [← enclose_formula]
    unfold enclose
    split
    · exact hs
    · simp only [List.length_cons, List.length_append, List.length_nil]
      omega
  induction s using joins_induction generalizing e with
  | letter a => rfl
  | not s ih =>
    rw [write, formula, Formula.chars_not, exposedCount, List.length_append, henclose s _ (ih _),
      List.length_cons, show (Word.symbols .not).length = 1 from rfl]
    omega
  | ifThen l r ihl ihr =>
    rw [write, formula, Formula.chars_binary, exposedCount]
    simp only [List.length_append, henclose l _ (ihl _), henclose r _ (ihr _)]
    have hif : (Word.symbols (.antecedent e)).length = 3 * e.toNat := by
      cases e <;> rfl
    have hthen : (Word.symbols .consequent).length = (Connective.chars .wide .implies).length := rfl
    omega
  | joins w l r s hs ihl ihr =>
    obtain ⟨op, hformula, hop⟩ := hs.formula_eq
    rw [hs.write_eq, hformula, Formula.chars_binary, hs.exposedCount_eq, hop]
    simp only [List.length_append, henclose l _ (ihl _), henclose r _ (ihr _)]
    omega

/-- In the end all words are symbols, and the sentence is the pretty form of its formula if no `if`
was exposed. -/
theorem write_symbols (s : Sentence) (e : Bool) (h : s.exposedCount e = 0) :
    s.write Word.symbols e = s.formula.chars .wide := by
  induction s using joins_induction generalizing e with
  | letter a => rfl
  | not s ih =>
    rw [write, formula, Formula.chars_not, ih _ h, enclose_formula]
    rfl
  | ifThen l r ihl ihr =>
    rw [exposedCount, Nat.add_eq_zero_iff, Nat.add_eq_zero_iff] at h
    obtain ⟨he, hl, hr⟩ := h
    cases e with
    | true => cases he
    | false =>
      rw [write, formula, Formula.chars_binary, ihl _ hl, ihr _ hr, enclose_formula,
        enclose_formula]
      rfl
  | joins w l r s hs ihl ihr =>
    obtain ⟨op, hformula, hop⟩ := hs.formula_eq
    rw [hs.exposedCount_eq, Nat.add_eq_zero_iff] at h
    rw [hs.write_eq, hformula, Formula.chars_binary, hop, ihl _ h.1, ihr _ h.2, enclose_formula,
      enclose_formula]

/-- Without `implies` nothing is exposed. -/
theorem exposedCount_eq_zero {s : Sentence} (h : .implies ∉ s.styles) :
    s.exposedCount false = 0 := by
  induction s using joins_induction with
  | letter a => rfl
  | not s ih => exact ih h
  | ifThen l r ihl ihr =>
    rw [styles, List.mem_cons, List.mem_append, not_or, not_or] at h
    rw [exposedCount, ihl h.2.1, ihr h.2.2]
    rfl
  | joins w l r s hs ihl ihr =>
    obtain ⟨own, hstyles, hexposes⟩ := hs.styles_eq
    rw [hstyles, List.mem_append, List.mem_append, not_or, not_or] at h
    have hw : w.exposes = false := Bool.eq_false_iff.2 fun hw => h.1 (hexposes hw)
    rw [hs.exposedCount_eq, hw, ihl h.2.1, ihr h.2.2]

/-- A sentence that is a letter is the sentence of some letter. -/
theorem exists_of_isLetter {s : Sentence} (h : s.isLetter = true) : ∃ a, s = letter a := by
  cases s with
  | letter a => exact ⟨a, rfl⟩
  | _ => cases h

/-- The operand of a connective is a letter or begins with a parenthesis. -/
theorem startsOperand_enclose (spell : Word → List Char) (e : Bool) (s : Sentence)
    {rest : List Char} (hrest : startsWithWord rest = false) :
    StartsOperand (s.enclose (s.write spell e) ++ rest) := by
  cases hs : s.isLetter with
  | true =>
    obtain ⟨a, rfl⟩ := exists_of_isLetter hs
    exact ⟨a.char, rest, rfl, a.isBlank_char, fun _ => hrest⟩
  | false =>
    refine ⟨'(', s.write spell e ++ [')'] ++ rest, ?_, rfl, ?_⟩
    · simp [enclose, hs]
    · intro h
      cases h

end Sentence

end NaturalDeduction.English
