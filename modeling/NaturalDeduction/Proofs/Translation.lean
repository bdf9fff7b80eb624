import NaturalDeduction.Proofs.Wording

/-!
# From sentences to formulas

Each of the ten replacements takes the spelling of the words before its turn to the spelling after
it (`English.Pass`). What has to be known for this about the text around a word is little: an
operand begins with a parenthesis or with a single letter, and what stands before a prefixed word is
an opening parenthesis or nothing (`English.AtOpening`).

The replacement that reads an `if` as the converse conditional looks further back, to the last word
before the parentheses (`English.AtExposure`). That word is a connective that it knows or no word at
all, unless it is `implies`. So the translation of a sentence is the pretty form of its formula
exactly if no `if` is exposed (`English.Sentence.toSymbols_eq_pretty_iff`), which is the case if
`implies` does not occur (`English.Sentence.toSymbols_eq_pretty`).
-/

namespace NaturalDeduction.English

open Text (isBlank)

/-! ## One replacement -/

/-- What a replacement needs to know about the text before a word. `C` is about the text before a
sentence, and says also whether an `if` there is exposed. -/
def Word.Fits (C : Bool → List Char → Prop) : Word → List Char → Prop
  | .not, before => ∃ e, C e before
  | .antecedent e, before => C e before
  | _, _ => True

/-- A replacement takes one spelling of the words to another, in texts with the property `C` before
each sentence. -/
structure Pass (p : Pattern) (new : List Char) (spell spell' : Word → List Char)
    (C : Bool → List Char → Prop) : Prop where
  /-- The pattern waits for a phrase, which no operand begins with. -/
  awaits : ∃ phrase, Awaits p phrase ∧ clashes phrase [] = true
  /-- A word does not continue what stands before it. -/
  apart : ∀ w : Word, w.isInfix = true → ∀ rest, startsWithWord (spell w ++ rest) = false
  /-- A parenthesis more makes no difference. -/
  deeper : ∀ {e before}, C e before → C e ('(' :: before)
  /-- The property holds for the operand after a word. -/
  behind : ∀ {w : Word} {before}, w.Fits C before → C w.exposes ('(' :: ((spell w).reverse ++ before))
  /-- Each word is respelled. -/
  word : ∀ {w : Word} {before rest}, w.Fits C before → StartsOperand rest →
    Turns p new before (spell w) (spell' w) rest

namespace Pass

variable {p : Pattern} {new : List Char} {spell spell' : Word → List Char}
  {C : Bool → List Char → Prop} {before rest : List Char} {e : Bool}

/-- What a replacement does to a sentence. -/
def Respells (p : Pattern) (new : List Char) (spell spell' : Word → List Char)
    (C : Bool → List Char → Prop) (s : Sentence) : Prop :=
  ∀ e before rest, C e before → startsWithWord rest = false →
    Turns p new before (s.write spell e) (s.write spell' e) rest

/-- A character with which an operand can start is passed over. -/
theorem char (h : Pass p new spell spell' C) {c : Char} (hc : StartsOperand (c :: rest)) :
    Turns p new before [c] [c] rest := by
  obtain ⟨phrase, hp, hphrase⟩ := h.awaits
  exact Turns.cons (hp.eq_none (s := []) hphrase hc) turns_nil

/-- An operand is respelled as its sentence is, also in parentheses. -/
theorem operand (h : Pass p new spell spell' C) {s : Sentence}
    (hs : Respells p new spell spell' C s) (hC : C e ('(' :: before))
    (hrest : startsWithWord rest = false) :
    Turns p new before (s.enclose (s.write spell e)) (s.enclose (s.write spell' e)) rest := by
  unfold Sentence.enclose
  split
  · next hletter =>
    obtain ⟨a, rfl⟩ := Sentence.exists_of_isLetter hletter
    exact h.char ⟨a.char, rest, rfl, a.isBlank_char, fun _ => hrest⟩
  · have hopen : Turns p new before ['('] ['('] (s.write spell e ++ [')'] ++ rest) :=
      h.char ⟨'(', _, rfl, rfl, fun hword => by cases hword⟩
    have hclose : Turns p new ((s.write spell e).reverse ++ '(' :: before) [')'] [')'] rest :=
      h.char ⟨')', _, rfl, rfl, fun hword => by cases hword⟩
    exact hopen.append ((hs e _ _ hC rfl).append hclose)

/-- A connective between two operands. -/
theorem joined (h : Pass p new spell spell' C) {l r : Sentence} {w : Word}
    (hw : w.isInfix = true) (hl : Respells p new spell spell' C l)
    (hr : Respells p new spell spell' C r) (hC : C e ('(' :: before))
    (hrest : startsWithWord rest = false) :
    Turns p new before
      (l.enclose (l.write spell e) ++ spell w ++ r.enclose (r.write spell w.exposes))
      (l.enclose (l.write spell' e) ++ spell' w ++ r.enclose (r.write spell' w.exposes)) rest := by
  have hfits : ∀ b, w.Fits C b := by
    intro b
    cases w <;> trivial
  refine ((h.operand hl hC (h.apart w hw _)).append ?_).append ?_
  · exact h.word (hfits _) (r.startsOperand_enclose spell w.exposes hrest)
  · rw [List.reverse_append, List.append_assoc]
    exact h.operand hr (h.behind (hfits _)) hrest

/-- A pass respells whole sentences, whatever they are. -/
theorem respells (h : Pass p new spell spell' C) (s : Sentence) :
    Respells p new spell spell' C s := by
  induction s using Sentence.joins_induction with
  | letter a =>
    intro e before rest _ hrest
    exact h.char ⟨a.char, rest, rfl, a.isBlank_char, fun _ => hrest⟩
  | not s ih =>
    intro e before rest hC hrest
    have hfits : Word.not.Fits C before := ⟨e, hC⟩
    exact (h.word hfits (s.startsOperand_enclose spell false hrest)).append
      (h.operand ih (h.behind hfits) hrest)
  | ifThen l r ihl ihr =>
    intro e before rest hC hrest
    have hfits : (Word.antecedent e).Fits C before := hC
    rw [Sentence.write, Sentence.write, List.append_assoc, List.append_assoc, List.append_assoc,
      List.append_assoc]
    refine (h.word hfits ?_).append ?_
    · rw [List.append_assoc, List.append_assoc]
      exact l.startsOperand_enclose spell false (h.apart .consequent rfl _)
    · rw [← List.append_assoc, ← List.append_assoc]
      exact h.joined (w := .consequent) rfl ihl ihr (h.behind hfits) hrest
  | joins w l r s hs ihl ihr =>
    intro e before rest hC hrest
    rw [hs.write_eq, hs.write_eq]
    exact h.joined hs.isInfix ihl ihr (h.deeper hC) hrest

/-- **A replacement respells whole sentences.** -/
theorem replace_write (h : Pass p new spell spell' C) (hC : C e []) (s : Sentence) :
    replace p new (s.write spell e) = s.write spell' e :=
  replace_of_turns (h.respells s e [] [] hC rfl)

end Pass

/-! ## The ten replacements -/

/-- Before an opening there is nothing, or a parenthesis. -/
theorem opens_cases {before : List Char} (h : opens before = true) :
    before = [] ∨ ∃ b, before = '(' :: b := by
  cases before with
  | nil => exact .inl rfl
  | cons c b => exact .inr ⟨b, by rw [beq_iff_eq.1 h]⟩

/-- No word ends at an opening. -/
theorem startsWithWord_of_opens {before : List Char} (h : opens before = true) :
    startsWithWord before = false := by
  rcases opens_cases h with rfl | ⟨b, rfl⟩ <;> rfl

/-- A pass over the words at one turn. What is left to show is that words are respelled if it is
their turn, and that they stay if the phrase that the pattern waits for is in them. -/
theorem pass_of_turn {p : Pattern} {new phrase : List Char} {n : Nat} {C : Bool → List Char → Prop}
    (hp : Awaits p phrase) (hphrase : clashes phrase [] = true)
    (hdeeper : ∀ {e before}, C e before → C e ('(' :: before))
    (hbehind : ∀ {w : Word} {before}, w.Fits C before →
      C w.exposes ('(' :: ((w.spelling n).reverse ++ before)))
    (hturn : ∀ {w : Word} {before rest}, w.stays n phrase = false → w.Fits C before →
      StartsOperand rest → Turns p new before (w.spelling n) (w.spelling (n + 1)) rest) :
    Pass p new (Word.spelling n) (Word.spelling (n + 1)) C where
  awaits := ⟨phrase, hp, hphrase⟩
  apart := fun w hw rest => w.startsWithWord_spelling hw n rest
  deeper := hdeeper
  behind := hbehind
  word := by
    intro w before rest hfits hrest
    by_cases hstays : w.stays n phrase = true
    · rw [Word.stays, Bool.and_eq_true, bne_iff_ne] at hstays
      rw [Word.spelling_succ hstays.1]
      exact turns_of_lacksPhrase hp hstays.2 hrest
    · exact hturn (Bool.eq_false_iff.2 hstays) hfits hrest

/-- The text before a sentence ends with an opening parenthesis or is empty. -/
def AtOpening (_exposed : Bool) (before : List Char) : Prop :=
  opens before = true

/-- Where a word without a space in front fits, no other word ends. -/
theorem startsWithWord_of_fits {w : Word} {before : List Char} (h : w.Fits AtOpening before)
    (hlead : w.lead = []) : startsWithWord before = false := by
  cases w with
  | not => exact startsWithWord_of_opens h.choose_spec
  | antecedent e => exact startsWithWord_of_opens h
  | _ => cases hlead

/-- A word is matched with its blanks. -/
theorem spaced_english {w : Word} {before rest : List Char} (hfits : w.Fits AtOpening before)
    (hrest : StartsOperand rest) :
    spaced w.phrase before (w.english ++ rest) = some w.english.length := by
  have hlead : w.lead = [] ∨ w.lead = [' '] := by
    unfold Word.lead
    split
    · exact .inr rfl
    · exact .inl rfl
  obtain ⟨c, phrase, hphrase, hc⟩ : ∃ c phrase, w.phrase = c :: phrase ∧ isBlank c = false := by
    cases w <;> exact ⟨_, _, rfl, rfl⟩
  rw [Word.english, hphrase]
  exact spaced_eq_some hlead hc (startsWithWord_of_fits hfits) hrest

/-- A pass that looks for one word. -/
theorem pass_of_word {p : Pattern} {w : Word} (hp : Awaits p w.phrase)
    (hmatch : ∀ {before rest}, w.Fits AtOpening before → StartsOperand rest →
      p before (w.english ++ rest) = some w.english.length)
    (hphrase : clashes w.phrase [] = true) (hothers : w.othersStay = true) :
    Pass p w.symbols (Word.spelling w.turn) (Word.spelling (w.turn + 1)) AtOpening := by
  refine pass_of_turn hp hphrase (fun _ => rfl) (fun _ => rfl) ?_
  intro v before rest hv hfits hrest
  obtain rfl := Word.eq_of_othersStay hothers hv
  rw [Word.spelling_turn, Word.spelling_turn_succ]
  refine turns_of_match ?_ (hmatch hfits hrest)
  exact List.append_ne_nil_of_right_ne_nil _ (List.cons_ne_nil ' ' [])

/-- Replacing a phrase with its blanks respells its word and leaves the others. -/
theorem pass_spaced (w : Word) (hphrase : clashes w.phrase [] = true)
    (hothers : w.othersStay = true) :
    Pass (spaced w.phrase) w.symbols (Word.spelling w.turn) (Word.spelling (w.turn + 1))
      AtOpening :=
  pass_of_word (awaits_spaced w.phrase) spaced_english hphrase hothers

/-- Negations are found, because nothing or an opening parenthesis is before them. -/
theorem pass_opening_not :
    Pass (opening (spaced Word.not.phrase)) Word.not.symbols (Word.spelling 6) (Word.spelling 7)
      AtOpening := by
  refine pass_of_word (w := .not) (awaits_spaced _).opening ?_ (by decide) (by decide)
  intro before rest hfits hrest
  have hopens : opens before = true := hfits.choose_spec
  rw [opening, hopens, if_pos rfl]
  exact spaced_english hfits hrest

/-- After that no negation is left. -/
theorem pass_not (new : List Char) :
    Pass (spaced Word.not.phrase) new (Word.spelling 7) (Word.spelling 8) AtOpening := by
  refine pass_of_turn (awaits_spaced _) (by decide) (fun _ => rfl) (fun _ => rfl) ?_
  intro w before rest hw
  have hall : (Word.all.all fun v => v.stays 7 Word.not.phrase) = true := by decide
  rw [List.all_eq_true.1 hall w w.mem_all] at hw
  cases hw

/-! ## The converse conditional -/

/-- The text before a sentence ends with an opening parenthesis or is empty, and an `if` after it is
taken for the converse conditional exactly if it is exposed. -/
def AtExposure (exposed : Bool) (before : List Char) : Prop :=
  opens before = true ∧ isConverse before = exposed

/-- Behind a word, what it exposes is exposed. -/
theorem atExposure_behind {w : Word} {before : List Char} (h : w.Fits AtExposure before) :
    AtExposure w.exposes ('(' :: ((w.spelling 2).reverse ++ before)) := by
  refine ⟨rfl, ?_⟩
  cases w with
  | not =>
    obtain ⟨e, hopens, -⟩ := h
    rcases opens_cases hopens with rfl | ⟨b, rfl⟩ <;> rfl
  | antecedent e =>
    rcases opens_cases h.1 with rfl | ⟨b, rfl⟩ <;> cases e <;> rfl
  | _ => rfl

/-- An `if` in front of an operand is replaced exactly if it is exposed. -/
theorem turns_antecedent {e : Bool} {before rest : List Char} (h : AtExposure e before)
    (hrest : StartsOperand rest) :
    Turns converseIf "<-".toList before (Word.spelling 2 (.antecedent e))
      (Word.spelling 3 (.antecedent e)) rest := by
  cases e with
  | true =>
    -- The blank stays behind the new sign.
    have hmatch : converseIf before ("if".toList ++ ([' '] ++ rest)) = some "if".toList.length := by
      rw [converseIf, h.2, if_pos rfl, alone, phrase?_append (startsWithWord_of_opens h.1) rfl]
      rfl
    exact (turns_of_match (by decide) hmatch).append
      (turns_of_lacksPhrase awaits_converseIf (by decide) hrest)
  | false =>
    have hnone : converseIf before ('i' :: (['f', ' '] ++ rest)) = none := by
      rw [converseIf, h.2]
      rfl
    exact Turns.cons hnone (turns_of_lacksPhrase awaits_converseIf (by decide) hrest)

/-- Replacing the exposed word of the converse conditional respells it and leaves the others. -/
theorem pass_converseIf :
    Pass converseIf "<-".toList (Word.spelling 2) (Word.spelling 3) AtExposure := by
  refine pass_of_turn awaits_converseIf (by decide) ?_ atExposure_behind ?_
  · intro e before h
    exact ⟨rfl, h.2⟩
  · intro w before rest hw hfits hrest
    cases w with
    | antecedent e => exact turns_antecedent hfits hrest
    | _ => exact absurd hw (by decide)

/-! ## All replacements -/

/-- The replacements in their order, each with the word that it is for. -/
theorem replacements_eq : replacements =
    [(spaced Word.ifAndOnlyIf.phrase, Word.ifAndOnlyIf.symbols),
      (spaced Word.onlyIf.phrase, Word.onlyIf.symbols),
      (converseIf, "<-".toList),
      (spaced Word.or.phrase, Word.or.symbols),
      (spaced Word.and.phrase, Word.and.symbols),
      (spaced Word.consequent.phrase, Word.consequent.symbols),
      (opening (spaced Word.not.phrase), Word.not.symbols),
      (spaced Word.not.phrase, " ~".toList),
      (spaced Word.implies.phrase, Word.implies.symbols),
      (spaced (Word.antecedent false).phrase, (Word.antecedent false).symbols)] :=
  rfl

namespace Sentence

/-- Replacing a phrase in a whole sentence respells its word. -/
theorem replace_spaced (s : Sentence) (w : Word) (hphrase : clashes w.phrase [] = true)
    (hothers : w.othersStay = true) :
    replace (spaced w.phrase) w.symbols (s.write (Word.spelling w.turn) false) =
      s.write (Word.spelling (w.turn + 1)) false :=
  (pass_spaced w hphrase hothers).replace_write rfl s

/-- **What the replacements make of a sentence**: the symbols of its words, in the places of the
words. -/
theorem toSymbolChars_chars (s : Sentence) :
    toSymbolChars s.chars = s.write Word.symbols false := by
  have h0 := s.replace_spaced .ifAndOnlyIf (by decide) (by decide)
  have h1 := s.replace_spaced .onlyIf (by decide) (by decide)
  have h2 := pass_converseIf.replace_write (e := false) ⟨rfl, rfl⟩ s
  have h3 := s.replace_spaced .or (by decide) (by decide)
  have h4 := s.replace_spaced .and (by decide) (by decide)
  have h5 := s.replace_spaced .consequent (by decide) (by decide)
  have h6 := pass_opening_not.replace_write (e := false) rfl s
  have h7 := (pass_not " ~".toList).replace_write (e := false) rfl s
  have h8 := s.replace_spaced .implies (by decide) (by decide)
  have h9 := s.replace_spaced (.antecedent false) (by decide) (by decide)
  have hdone : Word.spelling 10 = Word.symbols := by
    funext w
    rcases w with _ | _ | _ | _ | _ | _ | (_ | _) | _ <;> rfl
  simp only [Word.turn] at h0 h1 h3 h4 h5 h8 h9
  rw [← write_english s false, ← hdone, toSymbolChars, replacements_eq]
  simp only [List.foldl_cons, List.foldl_nil]
  rw [h0, h1, h2, h3, h4, h5, h6, h7, h8, h9]

/-! ## Sentences and formulas -/

/-- A sentence in which nothing is exposed is translated into the formula that it says. -/
theorem toSymbols_of_exposedCount_eq_zero {s : Sentence} (h : s.exposedCount false = 0) :
    toSymbols (String.ofList s.chars) = s.formula.pretty := by
  rw [toSymbols, String.toList_ofList, toSymbolChars_chars, s.write_symbols false h, Formula.pretty]

/-- **The translation of a sentence is the pretty form of its formula exactly if no `if` stands
directly after `implies`**, with nothing but opening parentheses in between. -/
theorem toSymbols_eq_pretty_iff (s : Sentence) :
    toSymbols (String.ofList s.chars) = s.formula.pretty ↔ s.exposedCount false = 0 := by
  constructor
  · intro h
    rw [toSymbols, String.toList_ofList, toSymbolChars_chars, Formula.pretty,
      String.ofList_inj] at h
    have hlength := s.length_write_symbols false
    rw [h] at hlength
    omega
  · exact toSymbols_of_exposedCount_eq_zero

/-- In `p implies (if q then r)` the `if` is taken for the converse conditional. -/
theorem toSymbols_exposed :
    let s : Sentence := .conditional .implies (.letter ⟨'p', rfl⟩)
      (.conditional .ifThen (.letter ⟨'q', rfl⟩) (.letter ⟨'r', rfl⟩))
    String.ofList s.chars = "p implies (if q then r)" ∧
      toSymbols (String.ofList s.chars) = "p -> (<- q -> r)" ∧
      s.formula.pretty = "p -> (q -> r)" ∧
      toSymbols (String.ofList s.chars) ≠ s.formula.pretty := by
  intro s
  have htranslation : toSymbols (String.ofList s.chars) = "p -> (<- q -> r)" := by
    rw [toSymbols, String.toList_ofList, toSymbolChars_chars]
    rfl
  have hpretty : s.formula.pretty = "p -> (q -> r)" := rfl
  refine ⟨rfl, htranslation, hpretty, ?_⟩
  rw [htranslation, hpretty]
  decide

/-- **Translation undoes saying** if conditionals are said with `if` and `then` or with `only if`:
the translation is the pretty form of the formula, and within the usual limits it is read as that
formula again. -/
theorem toSymbols_eq_pretty (s : Sentence) (h : .implies ∉ s.styles) :
    toSymbols (String.ofList s.chars) = s.formula.pretty ∧
      ((s.formula.canonical.length : Int) ≤ Limits.standard.maxLength →
        (s.formula.depth : Int) ≤ Limits.standard.maxDepth →
        Formula.parse (toSymbols (String.ofList s.chars)) = .ok s.formula) := by
  have hpretty := toSymbols_of_exposedCount_eq_zero (exposedCount_eq_zero h)
  refine ⟨hpretty, ?_⟩
  intro hlength hdepth
  rw [Formula.canonical, String.length_ofList, Formula.length_chars_tight] at hlength
  have hsingle := Formula.hasSingleTerms_of_isPropositional s.isPropositional_formula
  rw [hpretty, Formula.parse, Formula.pretty, String.toList_ofList,
    Formula.parseChars_chars hsingle hlength, Formula.withinDepth, if_neg (by omega)]

/-- Conditionals in both ways around and inside each other. -/
theorem toSymbols_eq_pretty_nested :
    let p : Sentence := .letter ⟨'p', rfl⟩
    let q : Sentence := .letter ⟨'q', rfl⟩
    let s : Sentence := .conditional .ifThen (.conditional .onlyIf p (.not q))
      (.conditional .ifThen (.or p q) p)
    String.ofList s.chars = "if (p only if (not q)) then (if (p or q) then p)" ∧
      .implies ∉ s.styles ∧
      toSymbols (String.ofList s.chars) = "(p -> (~q)) -> ((p V q) -> p)" ∧
      Formula.parse (toSymbols (String.ofList s.chars)) = .ok s.formula := by
  intro p q s
  have hstyles : .implies ∉ s.styles := by decide
  obtain ⟨hpretty, hread⟩ := s.toSymbols_eq_pretty hstyles
  exact ⟨rfl, hstyles, hpretty, hread (by decide) (by decide)⟩

end Sentence

end NaturalDeduction.English
