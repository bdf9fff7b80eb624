import NaturalDeduction.Error
import NaturalDeduction.Proofs.Grammar
import NaturalDeduction.Proofs.Outcome

/-!
# The parser reads exactly the texts of the grammar

The parser does not follow the grammar: it takes enclosing parentheses off, looks for the first
connective outside of all others and goes on with the two sides. Still it accepts the texts of the
grammar and no others.

On a derived text the parser gives the formula of the derivation, unless operators are nested too
deep, and then says so (`TextTree.parsePart_chars`, by recursion on the derivation). Conversely, a
part that is read has a derivation (`exists_tree_of_parsePart`, by recursion along the parser). The
left side of a main connective and the operand of a negation must be units there. They are texts,
and the first connective has been found already, so none is left in them (`splitMainFrom_before`).
-/

namespace NaturalDeduction

open Grammar

namespace Formula

/-! ## One step of the parser -/

/-- The outcome for a formula that stands below `n` operators, when only its nesting matters. -/
def withinDepth (limits : Limits) (n : Nat) (f : Formula) : Except ParseError Formula :=
  if limits.maxDepth < (n + f.depth : Nat) then .error (.tooDeep limits.maxDepth) else .ok f

/-- What the parser does with a part of a given form, once the nesting has been looked at. -/
def parseForm (limits : Limits) (n : Nat) (s : List Char) : Split → Except ParseError Formula
  | .letter a => .ok (.atom a)
  | .application P t => .ok (.application P t)
  | .binary op l r =>
    if l.isEmpty || r.isEmpty then .error (.missingOperand op.symbol s)
    else do
      let lhs ← parsePart limits (n + 1) l
      let rhs ← parsePart limits (n + 1) r
      .ok (.binary op lhs rhs)
  | .negation operand =>
    if operand.isEmpty then .error (.missingOperand ['~'] s)
    else do
      let f ← parsePart limits (n + 1) operand
      .ok (.not f)
  | .quantifier q v scope => do
    let f ← parsePart limits (n + 1) scope
    .ok (.quantified q v f)

/-- A part is read by its form. -/
theorem parsePart_eq (limits : Limits) (n : Nat) (s : List Char) :
    parsePart limits n s =
      if limits.maxDepth < n then .error (.tooDeep limits.maxDepth)
      else
        match split (trimOuter s) with
        | none => .error (.malformed (trimOuter s))
        | some form => parseForm limits n (trimOuter s) form := by
  rw [parsePart]
  split
  · rfl
  · split <;> (next h => simp only [h, parseForm])

/-- Only the trimmed text matters to the parser. -/
theorem parsePart_of_trimOuter {s t : List Char} (h : trimOuter s = trimOuter t) (limits : Limits)
    (n : Nat) : parsePart limits n s = parsePart limits n t := by
  rw [parsePart_eq, parsePart_eq, h]

/-- A form that has been found is read if nesting allows. -/
theorem parsePart_of_split {s : List Char} {form : Split} (htrim : trimOuter s = s)
    (hform : split s = some form) (limits : Limits) (n : Nat) :
    parsePart limits n s =
      if limits.maxDepth < n then .error (.tooDeep limits.maxDepth)
      else parseForm limits n s form := by
  rw [parsePart_eq, htrim, hform]

/-! ## Nesting -/

/-- A formula without operators is as deep as the place where it stands. -/
theorem withinDepth_of_depth_eq_zero {f : Formula} (h : f.depth = 0) (limits : Limits) (n : Nat) :
    (if limits.maxDepth < n then .error (.tooDeep limits.maxDepth) else .ok f) =
      withinDepth limits n f := by
  rw [withinDepth, h, Nat.add_zero]

/-- An operator above one formula adds one to its nesting. -/
theorem withinDepth_unary {f g : Formula} (h : g.depth = f.depth + 1) (make : Formula → Formula)
    (hmake : make f = g) (limits : Limits) (n : Nat) :
    (if limits.maxDepth < n then .error (.tooDeep limits.maxDepth)
      else do
        let f ← withinDepth limits (n + 1) f
        .ok (make f)) = withinDepth limits n g := by
  subst hmake
  have hn : n + (make f).depth = n + 1 + f.depth := by omega
  rw [withinDepth, withinDepth, hn]
  by_cases hdeep : limits.maxDepth < (n + 1 + f.depth : Nat)
  · simp only [if_pos hdeep]
    split <;> rfl
  · have hn : ¬ limits.maxDepth < n := by omega
    simp only [if_neg hdeep, if_neg hn]
    rfl

/-- A connective adds one to the nesting of its operands. -/
theorem withinDepth_binary (op : Connective) (f g : Formula) (limits : Limits) (n : Nat) :
    (if limits.maxDepth < n then .error (.tooDeep limits.maxDepth)
      else do
        let lhs ← withinDepth limits (n + 1) f
        let rhs ← withinDepth limits (n + 1) g
        .ok (.binary op lhs rhs)) = withinDepth limits n (.binary op f g) := by
  have hn : n + (Formula.binary op f g).depth = n + 1 + max f.depth g.depth := by
    rw [depth]
    omega
  rw [withinDepth, withinDepth, withinDepth, hn]
  by_cases hf : limits.maxDepth < (n + 1 + f.depth : Nat)
  · have hdeep : limits.maxDepth < (n + 1 + max f.depth g.depth : Nat) := by omega
    simp only [if_pos hf, if_pos hdeep]
    split <;> rfl
  · by_cases hg : limits.maxDepth < (n + 1 + g.depth : Nat)
    · have hdeep : limits.maxDepth < (n + 1 + max f.depth g.depth : Nat) := by omega
      simp only [if_neg hf, if_pos hg, if_pos hdeep]
      split <;> rfl
    · have hdeep : ¬ limits.maxDepth < (n + 1 + max f.depth g.depth : Nat) := by omega
      have hn : ¬ limits.maxDepth < n := by omega
      simp only [if_neg hf, if_neg hg, if_neg hdeep, if_neg hn]
      rfl

end Formula

/-! ## Derived texts are read -/

namespace Grammar

/-- A text that does not begin with a parenthesis has no outer pair. -/
theorem stripPair?_eq_none {c : Char} (h : c ≠ '(') (s : List Char) :
    stripPair? (c :: s) = none := by
  simp [stripPair?, h]

/-- Only a unit in parentheses is enclosed by a pair. -/
theorem UnitTree.stripPair?_chars {d : UnitTree} (h : d.form.isSome = true) (s : List Char) :
    stripPair? (d.chars ++ s) = none := by
  cases d with
  | letter a => exact stripPair?_eq_none (isPlain_iff.1 a.isPlain_char).1 s
  | application P t => exact stripPair?_eq_none (isPlain_iff.1 P.isPlain_char).1 _
  | enclosed d => cases h
  | negation d => exact stripPair?_eq_none (by decide) _
  | quantifier q v d => exact stripPair?_eq_none (isPlain_iff.1 q.isPlain_symbol).1 _

/-- A pair around the first of two units does not enclose the whole text. -/
theorem stripPair?_binary (op : Connective) (d : UnitTree) (e : TextTree) :
    stripPair? (TextTree.binary op d e).chars = none := by
  rw [TextTree.chars, List.append_assoc]
  cases d with
  | enclosed d =>
    have hne : op.symbol ++ e.chars ≠ [] := by
      have := op.symbol_length_pos
      intro h
      rw [List.append_eq_nil_iff] at h
      rw [h.1] at this
      exact Nat.lt_irrefl 0 this
    have hdrop : (d.chars ++ ')' :: (op.symbol ++ e.chars)).dropLast =
        d.chars ++ ')' :: (op.symbol ++ e.chars).dropLast := by
      rw [List.dropLast_append_of_ne_nil (by simp), List.dropLast_cons_of_ne_nil hne]
    have hopen : staysOpen 1 (d.chars ++ ')' :: (op.symbol ++ e.chars).dropLast) = false := by
      have := staysOpen_append (m := 0) d.balanced_chars 0
        (')' :: (op.symbol ++ e.chars).dropLast)
      simpa using this
    simp [UnitTree.chars, stripPair?, hdrop, hopen]
  | letter a => exact UnitTree.stripPair?_chars rfl _
  | application P t => exact UnitTree.stripPair?_chars rfl _
  | negation d => exact UnitTree.stripPair?_chars rfl _
  | quantifier q v d => exact UnitTree.stripPair?_chars rfl _

/-- A unit with a form at its top level has no outer pair. -/
theorem UnitTree.trimOuter_chars {d : UnitTree} (h : d.form.isSome = true) :
    trimOuter d.chars = d.chars := by
  have := UnitTree.stripPair?_chars h []
  rw [List.append_nil] at this
  exact trimOuter_eq_self this

/-- The text of a unit is not empty. -/
theorem UnitTree.chars_ne_nil (d : UnitTree) : d.chars.isEmpty = false := by
  cases d <;> rfl

/-- No derived text is empty. -/
theorem TextTree.chars_ne_nil (d : TextTree) : d.chars.isEmpty = false := by
  cases d with
  | unit d => exact d.chars_ne_nil
  | binary op d e =>
    have := d.chars_ne_nil
    rw [List.isEmpty_eq_false_iff] at this ⊢
    rw [TextTree.chars, List.append_assoc]
    exact List.append_ne_nil_of_left_ne_nil this _

/-- A pair of parentheses around a text makes no difference. -/
theorem parsePart_enclosed {s : List Char} (h : balanced s = true) (limits : Limits) (n : Nat) :
    Formula.parsePart limits n ('(' :: (s ++ [')'])) = Formula.parsePart limits n s :=
  Formula.parsePart_of_trimOuter (trimOuter_of_stripPair? (stripPair?_enclosed h)) limits n

mutual

/-- The parser reads the text of a unit as its formula, unless it is nested too deep. -/
theorem UnitTree.parsePart_chars (limits : Limits) : (d : UnitTree) → (n : Nat) →
    Formula.parsePart limits n d.chars = Formula.withinDepth limits n d.formula
  | .letter a, n => by
      rw [Formula.parsePart_of_split (UnitTree.trimOuter_chars rfl) (UnitTree.split_chars _)]
      exact Formula.withinDepth_of_depth_eq_zero rfl limits n
  | .application P t, n => by
      rw [Formula.parsePart_of_split (UnitTree.trimOuter_chars rfl) (UnitTree.split_chars _)]
      exact Formula.withinDepth_of_depth_eq_zero rfl limits n
  | .enclosed d, n => by
      rw [UnitTree.chars, parsePart_enclosed d.balanced_chars]
      exact TextTree.parsePart_chars limits d n
  | .negation d, n => by
      rw [Formula.parsePart_of_split (UnitTree.trimOuter_chars rfl) (UnitTree.split_chars _)]
      simp only [Formula.parseForm, d.chars_ne_nil, Bool.false_eq_true, if_false,
        UnitTree.parsePart_chars limits d (n + 1)]
      exact Formula.withinDepth_unary rfl .not rfl limits n
  | .quantifier q v d, n => by
      rw [Formula.parsePart_of_split (UnitTree.trimOuter_chars rfl) (UnitTree.split_chars _)]
      simp only [Formula.parseForm, parsePart_enclosed d.balanced_chars,
        TextTree.parsePart_chars limits d (n + 1)]
      exact Formula.withinDepth_unary rfl (.quantified q v) rfl limits n

/-- **Derived texts are read**: the parser gives the formula of the derivation, unless it is nested
too deep. -/
theorem TextTree.parsePart_chars (limits : Limits) : (d : TextTree) → (n : Nat) →
    Formula.parsePart limits n d.chars = Formula.withinDepth limits n d.formula
  | .unit d, n => UnitTree.parsePart_chars limits d n
  | .binary op d e, n => by
      rw [Formula.parsePart_of_split (trimOuter_eq_self (stripPair?_binary op d e))
        (TextTree.split_chars _)]
      simp only [Formula.parseForm, d.chars_ne_nil, e.chars_ne_nil, Bool.or_self,
        Bool.false_eq_true, if_false, UnitTree.parsePart_chars limits d (n + 1),
        TextTree.parsePart_chars limits e (n + 1)]
      exact Formula.withinDepth_binary op d.formula e.formula limits n

end

end Grammar

/-! ## What splitting has found -/

/-- What it means for a text to have a form. The operators at the front count only if there is no
main connective. -/
def Split.Describes (s : List Char) : Split → Prop
  | .letter a => s = [a.char]
  | .application P t => s = P.char :: '(' :: (t.chars ++ [')'])
  | .binary op l r => splitMain s = some (l, op, r)
  | .negation t => splitMain s = none ∧ s = '~' :: t
  | .quantifier q v scope =>
    splitMain s = none ∧ s = q.symbol :: v.char :: scope ∧ (stripPair? scope).isSome = true

/-- A quantifier that is read is written with the character it was read from. -/
theorem Quantifier.eq_of_ofChar? {c : Char} {q : Quantifier} (h : Quantifier.ofChar? c = some q) :
    c = q.symbol := by
  unfold Quantifier.ofChar? at h
  split at h
  · next hc => cases h; exact hc
  · split at h
    · next hc => cases h; exact hc
    · cases h

/-- A split that is found without a main connective is what the text is. -/
theorem describes_of_splitUnary? {s : List Char} {form : Split} (hmain : splitMain s = none)
    (h : splitUnary? s = some form) : form.Describes s := by
  cases s with
  | nil => cases h
  | cons c s =>
    simp only [splitUnary?] at h
    split at h
    · next hc =>
      subst hc
      cases h
      exact ⟨hmain, rfl⟩
    · unfold splitQuantifier? at h
      split at h
      · next heq =>
        cases heq
        split at h
        · next hq hv =>
          split at h
          · next hscope =>
            cases h
            refine ⟨hmain, ?_, hscope⟩
            rw [Quantifier.eq_of_ofChar? hq, Letter.ofChar?_eq_some.1 hv]
          · cases h
        · cases h
      · cases h

/-- The form that is found is one that the text has. -/
theorem describes_of_split {s : List Char} {form : Split} (h : split s = some form) :
    form.Describes s := by
  unfold split at h
  split at h
  · next hvar =>
    cases h
    exact eq_of_readVariable? hvar
  · split at h
    · next happ =>
      cases h
      exact eq_of_readApplication? happ
    · split at h
      · next hcut =>
        cases h
        exact hcut
      · next hmain => exact describes_of_splitUnary? hmain h

/-! ## What is read is derived -/

namespace Grammar

/-- Enclosing pairs can be put around a derivation again. -/
theorem exists_tree_of_trimOuter {s : List Char} {f : Formula}
    (h : ∃ d : TextTree, d.chars = trimOuter s ∧ d.formula = f) :
    ∃ d : TextTree, d.chars = s ∧ d.formula = f := by
  fun_induction trimOuter s with
  | case1 s t hst ih =>
    obtain ⟨d, rfl, rfl⟩ := ih h
    exact ⟨.unit (.enclosed d), (eq_of_stripPair? hst).1.symm, rfl⟩
  | case2 => exact h

/-- A text without main connective that is enclosed by a pair derives what the pair encloses. -/
theorem exists_tree_of_stripPair? {d : TextTree} (hmain : splitMain d.chars = none)
    (hpair : (stripPair? d.chars).isSome = true) :
    ∃ e : TextTree, d.chars = '(' :: (e.chars ++ [')']) ∧ d.formula = e.formula := by
  obtain ⟨u, rfl⟩ := TextTree.exists_unit hmain
  cases hform : u.form.isSome with
  | true =>
    have hnone := UnitTree.stripPair?_chars hform []
    rw [List.append_nil] at hnone
    rw [TextTree.chars, hnone] at hpair
    cases hpair
  | false =>
    cases u with
    | enclosed e => exact ⟨e, rfl, rfl⟩
    | _ => cases hform

/-- If a text has no main connective, it has none without a plain character at its front. -/
theorem splitMain_of_plain {c : Char} (hc : isPlain c = true) {s : List Char}
    (h : splitMain (c :: s) = none) : splitMain s = none := by
  rw [splitMain, splitMainFrom_plain hc, Option.map_eq_none_iff] at h
  exact h

/-- **What is read is derived**: the parser gives a formula only if the text derives it. -/
theorem exists_tree_of_parsePart {limits : Limits} {n : Nat} {s : List Char} {f : Formula}
    (hs : balanced s = true) (h : Formula.parsePart limits n s = .ok f) :
    ∃ d : TextTree, d.chars = s ∧ d.formula = f := by
  fun_induction Formula.parsePart limits n s generalizing f with
  | case1 => cases h
  | case2 => cases h
  | case3 n s hn a hsplit =>
    cases h
    have htext : trimOuter s = [a.char] := describes_of_split hsplit
    exact exists_tree_of_trimOuter ⟨.unit (.letter a), htext.symm, rfl⟩
  | case4 n s hn P t hsplit =>
    cases h
    have htext : trimOuter s = P.char :: '(' :: (t.chars ++ [')']) := describes_of_split hsplit
    exact exists_tree_of_trimOuter ⟨.unit (.application P t), htext.symm, rfl⟩
  | case5 => cases h
  | case6 n s hn op l r hsplit hne ihl ihr =>
    obtain ⟨lhs, hl, h⟩ := exists_ok_of_bind h
    obtain ⟨rhs, hr, h⟩ := exists_ok_of_bind h
    cases h
    have hcut : splitMain (trimOuter s) = some (l, op, r) := describes_of_split hsplit
    obtain ⟨hbl, hbr⟩ := balancedFrom_of_splitMainFrom (n := 0) hcut (balanced_trimOuter hs)
    obtain ⟨d, rfl, rfl⟩ := ihl hbl hl
    obtain ⟨e, rfl, rfl⟩ := ihr hbr hr
    -- the left side has no connective of its own level any more
    obtain ⟨u, rfl⟩ := TextTree.exists_unit (splitMainFrom_before hcut)
    exact exists_tree_of_trimOuter ⟨.binary op u e, (eq_of_splitMainFrom hcut).symm, rfl⟩
  | case7 => cases h
  | case8 n s hn t hsplit hne ih =>
    obtain ⟨g, hg, h⟩ := exists_ok_of_bind h
    cases h
    obtain ⟨hmain, htext⟩ := describes_of_split hsplit
    have hb := balanced_trimOuter hs
    rw [htext] at hb hmain
    rw [balanced, balancedFrom_plain (by decide)] at hb
    obtain ⟨d, rfl, rfl⟩ := ih hb hg
    obtain ⟨u, rfl⟩ := TextTree.exists_unit (splitMain_of_plain (by decide) hmain)
    exact exists_tree_of_trimOuter ⟨.unit (.negation u), htext.symm, rfl⟩
  | case9 n s hn q v scope hsplit ih =>
    obtain ⟨g, hg, h⟩ := exists_ok_of_bind h
    cases h
    obtain ⟨hmain, htext, hpair⟩ := describes_of_split hsplit
    have hb := balanced_trimOuter hs
    rw [htext] at hb hmain
    rw [balanced, balancedFrom_plain q.isPlain_symbol, balancedFrom_plain v.isPlain_char] at hb
    obtain ⟨d, rfl, rfl⟩ := ih hb hg
    have hmain := splitMain_of_plain v.isPlain_char (splitMain_of_plain q.isPlain_symbol hmain)
    obtain ⟨e, hchars, hformula⟩ := exists_tree_of_stripPair? hmain hpair
    rw [hchars] at htext
    rw [hformula]
    exact exists_tree_of_trimOuter ⟨.unit (.quantifier q v e), htext.symm, rfl⟩

/-! ## The whole text -/

/-- Which formula a text is, for a parser with given limits: its characters other than blanks are
not too many and derive the formula, and the formula is not nested too deep. -/
structure Admits (limits : Limits) (s : List Char) (f : Formula) : Prop where
  /-- Blanks do not count. -/
  length_le : ((Text.removeBlanks s).length : Int) ≤ limits.maxLength
  /-- The text is in the grammar. -/
  isText : IsText (Text.removeBlanks s) f
  /-- The nesting is that of the formula; parentheses do not count. -/
  depth_le : (f.depth : Int) ≤ limits.maxDepth

/-- A text of the grammar that is not too long is read, or is nested too deep. -/
theorem parseChars_of_isText {limits : Limits} {s : List Char} {f : Formula}
    (hlength : ((Text.removeBlanks s).length : Int) ≤ limits.maxLength)
    (htext : IsText (Text.removeBlanks s) f) :
    Formula.parseChars limits s = Formula.withinDepth limits 0 f := by
  obtain ⟨d, hchars, rfl⟩ := exists_textTree htext
  have hbalanced := d.balanced_chars
  rw [hchars] at hbalanced
  simp only [Formula.parseChars]
  rw [if_neg (by omega), if_pos hbalanced, ← hchars]
  exact d.parsePart_chars limits 0

/-- What the parser reads is what the grammar admits. -/
theorem admits_of_parseChars {limits : Limits} {s : List Char} {f : Formula}
    (h : Formula.parseChars limits s = .ok f) : Admits limits s f := by
  have hread := h
  simp only [Formula.parseChars] at h
  split at h
  · cases h
  · next hlength =>
    have hlength : ((Text.removeBlanks s).length : Int) ≤ limits.maxLength := by omega
    split at h
    · next hbalanced =>
      have htext : IsText (Text.removeBlanks s) f :=
        isText_iff_exists_tree.2 (exists_tree_of_parsePart hbalanced h)
      refine ⟨hlength, htext, ?_⟩
      rw [parseChars_of_isText hlength htext, Formula.withinDepth] at hread
      split at hread
      · cases hread
      · omega
    · cases h

/-- What the grammar admits is read by the parser. -/
theorem parseChars_of_admits {limits : Limits} {s : List Char} {f : Formula}
    (h : Admits limits s f) : Formula.parseChars limits s = .ok f := by
  have hdepth := h.depth_le
  rw [parseChars_of_isText h.length_le h.isText, Formula.withinDepth, if_neg (by omega)]

/-- Every text of the grammar has one derivation. -/
theorem exists_unique_tree {s : List Char} {f : Formula} (h : IsText s f) :
    ∃ d : TextTree, d.chars = s ∧ d.formula = f ∧ ∀ e : TextTree, e.chars = s → e = d := by
  obtain ⟨d, rfl, rfl⟩ := exists_textTree h
  exact ⟨d, rfl, rfl, fun e he => TextTree.chars_injective e d he⟩

/-- Faults of texts are reported under one of two names. -/
theorem reportName?_parse (e : ParseError) :
    (Error.parse e).reportName? = some "ParserError" ∨
      (Error.parse e).reportName? = some "FormulaTooComplexError" := by
  simp only [Error.reportName?]
  split
  · exact .inr rfl
  · exact .inl rfl

/-- **The parser accepts exactly the grammar.** It gives a formula if and only if the text admits
it; a text that is derived at all is derived in one way only; and in all other cases there is an
error of the parser. -/
theorem parseValue_eq_ok_iff_admits (limits : Limits) (s : String) :
    (∀ f : Formula, Formula.parseValue limits (.text s) = .ok f ↔ Admits limits s.toList f) ∧
      (∀ f : Formula, IsText (Text.removeBlanks s.toList) f →
        ∃ d : TextTree, d.chars = Text.removeBlanks s.toList ∧ d.formula = f ∧
          ∀ e : TextTree, e.chars = Text.removeBlanks s.toList → e = d) ∧
      ((∀ f : Formula, ¬ Admits limits s.toList f) →
        ∃ e : ParseError, Formula.parseValue limits (.text s) = .error e ∧
          ((Error.parse e).reportName? = some "ParserError" ∨
            (Error.parse e).reportName? = some "FormulaTooComplexError")) := by
  refine ⟨fun f => ⟨admits_of_parseChars, parseChars_of_admits⟩,
    fun f h => exists_unique_tree h, ?_⟩
  intro hnone
  cases h : Formula.parseValue limits (.text s) with
  | ok f => exact absurd (admits_of_parseChars h) (hnone f)
  | error e => exact ⟨e, rfl, reportName?_parse e⟩

end Grammar

end NaturalDeduction
