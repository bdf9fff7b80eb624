import NaturalDeduction.Proofs.Procedures

/-!
# Instances of quantified formulas

Whether one formula is an instance of another is decided on canonical forms. The variable is
replaced throughout the scope by the character that stands in the other text at the place of its
first occurrence, whatever character that is: a sign, a parenthesis, a predicate symbol. On texts
this says that some character put for the variable gives the other text (`Rule.isInstance_iff`).

On the canonical forms of formulas the character is a letter, so that an instance is a renaming of
the scope (`Rule.isInstance_chars_iff`). The reason is a count. A canonical form has one letter more
than it has commas, connectives and quantifiers (`Formula.countP_isLower_chars`). Putting something
other than a letter for a letter takes a letter away and can only add to the others, so the result
is not a canonical form any more (`Formula.isLower_of_chars_eq_map`).

`Rule.isInstance_iff_rename` puts this together for the two rules that work with instances.
-/

namespace NaturalDeduction

/-! ## Counting letters -/

/-- The characters that call for one letter more: commas, quantifiers and the last characters of the
connectives. -/
def isJoint (c : Char) : Bool :=
  c = ',' || c = 'V' || c = '&' || c = '>' || c = 'E' || c = 'A'

/-- A comma calls for a letter. -/
@[simp] theorem isJoint_comma : isJoint ',' = true := rfl

/-- A parenthesis that opens calls for no letter. -/
@[simp] theorem isJoint_open : isJoint '(' = false := rfl

/-- A parenthesis that closes calls for no letter. -/
@[simp] theorem isJoint_close : isJoint ')' = false := rfl

/-- A negation calls for no letter of its own. -/
@[simp] theorem isJoint_tilde : isJoint '~' = false := rfl

/-- A character that calls for a letter is none. -/
theorem isLower_of_isJoint {c : Char} (h : isJoint c = true) : c.isLower = false := by
  simp only [isJoint, Bool.or_eq_true, decide_eq_true_eq] at h
  rcases h with ((((rfl | rfl) | rfl) | rfl) | rfl) | rfl <;> decide

/-- Letters are no joints. -/
theorem Letter.isJoint_char (a : Letter) : isJoint a.char = false := by
  by_contra h
  have hlower := isLower_of_isJoint (eq_true_of_ne_false h)
  rw [a.isLower] at hlower
  cases hlower

/-- Predicate symbols are no joints. -/
theorem PredicateSymbol.isJoint_char (P : PredicateSymbol) : isJoint P.char = false := by
  have h := P.isPredicate
  by_contra hjoint
  have hsign := eq_true_of_ne_false hjoint
  simp only [isJoint, Bool.or_eq_true, decide_eq_true_eq] at hsign
  rcases hsign with ((((hc | hc) | hc) | hc) | hc) | hc <;> rw [hc] at h <;> cases h

namespace Formula

/-- Letters with commas between them are one more than the commas. -/
theorem countP_isLower_writeLetters (a : Letter) (as : List Letter) :
    (writeLetters a as).countP Char.isLower = (writeLetters a as).countP isJoint + 1 := by
  induction as generalizing a with
  | nil => simp [writeLetters, a.isLower, a.isJoint_char]
  | cons b bs ih => simp [writeLetters, List.countP_cons, a.isLower, a.isJoint_char, ih]

/-- Parentheses around an operand do not count. -/
theorem countP_operandChars {p : Char → Bool} (hopen : p '(' = false) (hclose : p ')' = false)
    (f : Formula) : (f.operandChars .tight).countP p = (f.chars .tight).countP p := by
  unfold operandChars
  split
  · rfl
  · simp [hopen, hclose]

/-- **A canonical form has one letter more than it has commas, connectives and quantifiers.** -/
theorem countP_isLower_chars (f : Formula) :
    (f.chars .tight).countP Char.isLower = (f.chars .tight).countP isJoint + 1 := by
  have hlower := @countP_operandChars Char.isLower rfl rfl
  have hjoint := @countP_operandChars isJoint rfl rfl
  induction f with
  | atom a => simp [a.isLower, a.isJoint_char]
  | predicate P t ts =>
    have hterms := countP_isLower_writeLetters t.head (termLetters t ts)
    simp [writeTerms, P.isLower_char, P.isJoint_char, hterms]
  | not f ih => simp [hlower, hjoint, ih]
  | binary op l r ihl ihr =>
    have hop : op.symbol.countP Char.isLower = 0 ∧ op.symbol.countP isJoint = 1 := by
      cases op <;> decide
    simp only [chars_binary, List.countP_append, hlower, hjoint, ihl, ihr, Connective.chars, hop]
    omega
  | quantified q x f ih =>
    have hq : q.symbol.isLower = false ∧ isJoint q.symbol = true := by
      cases q <;> decide
    simp [hq, x.isLower, x.isJoint_char, ih]

/-! ## Something else for a letter -/

/-- Something other than a letter put for a letter takes letters away. -/
theorem countP_isLower_map {c : Char} (hc : c.isLower = false) (v : Letter) (s : List Char) :
    (s.map fun x => if x = v.char then c else x).countP Char.isLower + s.count v.char =
      s.countP Char.isLower := by
  induction s with
  | nil => rfl
  | cons x s ih =>
    simp only [List.map_cons, List.countP_cons, List.count_cons, beq_iff_eq]
    by_cases hx : x = v.char
    · simp only [hx, if_true, hc, v.isLower, Bool.false_eq_true, if_false]
      omega
    · simp only [hx, if_false]
      omega

/-- What calls for a letter stays when something is put for a letter. -/
theorem countP_isJoint_le_map (c : Char) (v : Letter) (s : List Char) :
    s.countP isJoint ≤ (s.map fun x => if x = v.char then c else x).countP isJoint := by
  rw [List.countP_map]
  refine List.countP_mono_left fun x _ hx => ?_
  have hne : x ≠ v.char := by
    rintro rfl
    rw [v.isJoint_char] at hx
    cases hx
  simpa [hne] using hx

/-- **Only letters can be put for letters**: if a character put for a letter that occurs in a
canonical form gives a canonical form, it is a letter itself. -/
theorem isLower_of_chars_eq_map {f g : Formula} {v : Letter} {c : Char}
    (hmem : v.char ∈ f.chars .tight)
    (h : g.chars .tight = (f.chars .tight).map fun x => if x = v.char then c else x) :
    c.isLower = true := by
  by_contra hc
  have hfewer := countP_isLower_map (eq_false_of_ne_true hc) v (f.chars .tight)
  have hmore := countP_isJoint_le_map c v (f.chars .tight)
  have hcount := List.count_pos_iff.2 hmem
  have hf := countP_isLower_chars f
  have hg := countP_isLower_chars g
  rw [← h] at hfewer hmore
  omega

end Formula

/-! ## Instances of texts and of formulas -/

namespace Rule

/-- Replacing a character that does not occur changes nothing. -/
theorem map_ite_of_not_mem {s : List Char} {v : Char} (h : v ∉ s) (c : Char) :
    (s.map fun x => if x = v then c else x) = s := by
  have hid : ∀ x ∈ s, (if x = v then c else x) = id x := by
    intro x hx
    have hne : x ≠ v := by
      rintro rfl
      exact h hx
    exact if_neg hne
  rw [List.map_congr_left hid, List.map_id]

/-- **What is looked for in texts**: some character that gives the second text when it is put for
every `v` in the first. -/
theorem isInstance_iff {scope result : List Char} {v : Char} :
    isInstance scope v result = true ↔
      ∃ c, result = scope.map fun x => if x = v then c else x := by
  unfold isInstance
  split
  · next hnone =>
    have hmem : v ∉ scope := by
      intro hv
      have := List.findIdx?_eq_none_iff.1 hnone v hv
      simp at this
    rw [beq_iff_eq]
    constructor
    · rintro rfl
      exact ⟨v, (map_ite_of_not_mem hmem v).symm⟩
    · rintro ⟨c, rfl⟩
      exact (map_ite_of_not_mem hmem c).symm
  · next i hsome =>
    obtain ⟨hlt, hv, -⟩ := List.findIdx?_eq_some_iff_getElem.1 hsome
    have hv : scope[i] = v := by simpa using hv
    constructor
    · intro h
      split at h
      · cases h
      · next c _ => exact ⟨c, (beq_iff_eq.1 h).symm⟩
    · rintro ⟨c, rfl⟩
      simp [List.getElem?_eq_getElem hlt, hv]

/-- **Instances are renamings.** -/
theorem isInstance_chars_iff {f g : Formula} {v : Letter} :
    isInstance (f.chars .tight) v.char (g.chars .tight) = true ↔
      ∃ c, g.same (f.rename v c) = true := by
  rw [isInstance_iff]
  constructor
  · rintro ⟨c, h⟩
    by_cases hmem : v.char ∈ f.chars .tight
    · refine ⟨⟨c, Formula.isLower_of_chars_eq_map hmem h⟩, ?_⟩
      rw [Formula.same_iff, Formula.chars_rename, h]
      rfl
    · -- without an occurrence there is nothing to rename, so any letter will do
      refine ⟨v, ?_⟩
      rw [map_ite_of_not_mem hmem] at h
      rw [Formula.same_iff, Formula.chars_rename, h]
      exact (map_ite_of_not_mem hmem v.char).symm
  · rintro ⟨c, h⟩
    rw [Formula.same_iff, Formula.chars_rename] at h
    exact ⟨c.char, h⟩

end Rule

/-! ## Where letters occur -/

/-- Letters are the same if their characters are. -/
theorem Letter.char_inj {a b : Letter} : a.char = b.char ↔ a = b := by
  constructor
  · intro h
    cases a
    cases b
    simpa using h
  · rintro rfl
    rfl

/-- What is no letter is not the character of one. -/
theorem Letter.char_ne (a : Letter) {c : Char} (hc : c.isLower = false) : a.char ≠ c := by
  rintro rfl
  rw [a.isLower] at hc
  cases hc

namespace Formula

/-- A letter occurs among written letters if it is one of them. -/
theorem mem_writeLetters_iff {a b : Letter} {bs : List Letter} :
    a.char ∈ writeLetters b bs ↔ a ∈ b :: bs := by
  induction bs generalizing b with
  | nil => simp [writeLetters, Letter.char_inj]
  | cons d bs ih =>
    have hcomma : a.char ≠ ',' := a.char_ne (by decide)
    simp [writeLetters, Letter.char_inj, hcomma, ih]

/-- Parentheses around an operand add no letter. -/
theorem mem_operandChars_iff {a : Letter} {f : Formula} :
    a.char ∈ f.operandChars .tight ↔ a.char ∈ f.chars .tight := by
  have hopen : a.char ≠ '(' := a.char_ne (by decide)
  have hclose : a.char ≠ ')' := a.char_ne (by decide)
  unfold operandChars
  split
  · exact Iff.rfl
  · simp [hopen, hclose]

/-- A letter is written where it is a variable or stands for a thing, and nowhere else. -/
theorem mem_chars_iff {a : Letter} {f : Formula} :
    a.char ∈ f.chars .tight ↔ a ∈ f.variableLetters ∨ a ∈ f.objectLetters := by
  have hopen : a.char ≠ '(' := a.char_ne (by decide)
  have hclose : a.char ≠ ')' := a.char_ne (by decide)
  have htilde : a.char ≠ '~' := a.char_ne (by decide)
  induction f with
  | atom b => simp [variableLetters, objectLetters, Letter.char_inj]
  | predicate P t ts =>
    have hP : a.char ≠ P.char := a.char_ne P.isLower_char
    simp [variableLetters, objectLetters, writeTerms, hP, hopen, hclose, mem_writeLetters_iff]
  | not f ih => simp [variableLetters, objectLetters, htilde, mem_operandChars_iff, ih]
  | binary op l r ihl ihr =>
    have hop : a.char ∉ op.symbol := by
      cases op <;> simp [Connective.symbol, a.char_ne]
    simp only [chars_binary, List.mem_append, mem_operandChars_iff, ihl, ihr, Connective.chars, hop,
      variableLetters, objectLetters, or_false]
    exact or_or_or_comm
  | quantified q x f ih =>
    have hq : a.char ≠ q.symbol := a.char_ne (by cases q <;> decide)
    simp only [chars_quantified, List.mem_cons, List.mem_append, List.not_mem_nil, hq, hopen,
      hclose, Letter.char_inj, ih, variableLetters, objectLetters, false_or, or_false]
    exact or_left_comm

/-- Formulas whose terms are single letters are the same only if they are equal. -/
theorem same_iff_eq {f g : Formula} (hf : f.hasSingleTerms = true) (hg : g.hasSingleTerms = true) :
    f.same g = true ↔ f = g := by
  rw [same_iff_cutTerms_eq, cutTerms_of_hasSingleTerms hf, cutTerms_of_hasSingleTerms hg]

/-- Renaming leaves terms as they are grouped. -/
theorem hasSingleTerms_rename (v c : Letter) (f : Formula) :
    (f.rename v c).hasSingleTerms = f.hasSingleTerms := by
  induction f with
  | atom a => rfl
  | predicate P t ts => simp [rename, hasSingleTerms, Term.rename, Function.comp_def]
  | not f ih => exact ih
  | binary op l r ihl ihr => simp [rename, hasSingleTerms, ihl, ihr]
  | quantified q x f ih => exact ih

end Formula

/-! ## The rules that work with instances -/

namespace Rule

/-- Generalization asks for a renaming of the scope in which the variable does not occur. -/
theorem generalizes_quantified_iff {v : Letter} {f s : Formula} :
    generalizes (.quantified .existential v f) s = true ↔
      (∃ c, s.same (f.rename v c) = true) ∧ v ∉ s.variableLetters ∧ v ∉ s.objectLetters := by
  rw [generalizes, Bool.and_eq_true, isInstance_chars_iff, Bool.not_eq_true', ← Bool.not_eq_true,
    List.contains_iff_mem, Formula.mem_chars_iff, not_or]
  exact and_comm

/-- Only existentially quantified formulas are got by generalization. -/
theorem generalizes_iff {t s : Formula} :
    generalizes t s = true ↔
      ∃ v f, t = .quantified .existential v f ∧ (∃ c, s.same (f.rename v c) = true) ∧
        v ∉ s.variableLetters ∧ v ∉ s.objectLetters := by
  constructor
  · intro h
    obtain ⟨v, f, rfl⟩ : ∃ v f, t = .quantified .existential v f := by
      unfold generalizes at h
      split at h
      · exact ⟨_, _, rfl⟩
      · cases h
    exact ⟨v, f, rfl, generalizes_quantified_iff.1 h⟩
  · rintro ⟨v, f, rfl, h⟩
    exact generalizes_quantified_iff.2 h

/-- Instantiation asks for a renaming of the scope. -/
theorem allowsInstantiation_iff {t s : Formula} :
    allowsInstantiation t s = true ↔
      ∃ v f, s = .quantified .universal v f ∧ ∃ c, t.same (f.rename v c) = true := by
  constructor
  · intro h
    unfold allowsInstantiation at h
    split at h
    · next v f => exact ⟨v, f, rfl, isInstance_chars_iff.1 h⟩
    · cases h
  · rintro ⟨v, f, rfl, hrename⟩
    exact isInstance_chars_iff.2 hrename

/-- Instantiation looks at the first line, and nothing goes wrong there. -/
theorem check_universalInstantiation {room : Nat} {t : Formula} {s : Source}
    {others : List Source} :
    universalInstantiation.check room t (s :: others) = .ok true ↔
      allowsInstantiation t s.proposition = true := by
  rw [check, Procedure.instantiation_eq, Except.ok.injEq]

/-- **Instances of canonical forms are renamings of formulas.** Of two formulas with single letters
as terms, the text of the second is found to be an instance of the text of the first exactly if the
second is the first with one letter for another wherever it occurs. So instantiation leads from the
first to the second exactly if the first is universally quantified and the second a renaming of its
scope, and generalization from the second to the first exactly if the first is existentially
quantified, the second a renaming of its scope, and the variable does not occur in the second. -/
theorem isInstance_iff_rename {f g : Formula} (hf : f.hasSingleTerms = true)
    (hg : g.hasSingleTerms = true) :
    (∀ v : Letter, isInstance f.canonical.toList v.char g.canonical.toList = true ↔
      ∃ c, g = f.rename v c) ∧
    (∀ (room : Nat) (rule : Rule) (others : List Source),
      universalInstantiation.check room g (⟨f, rule⟩ :: others) = .ok true ↔
        ∃ v scope, f = .quantified .universal v scope ∧ ∃ c, g = scope.rename v c) ∧
    (generalizes f g = true ↔
      ∃ v scope, f = .quantified .existential v scope ∧ (∃ c, g = scope.rename v c) ∧
        v ∉ g.variableLetters ∧ v ∉ g.objectLetters) := by
  have hrename : ∀ {h : Formula} (v c : Letter), h.hasSingleTerms = true →
      (g.same (h.rename v c) = true ↔ g = h.rename v c) := by
    intro h v c hh
    apply Formula.same_iff_eq hg
    rw [Formula.hasSingleTerms_rename, hh]
  refine ⟨?_, ?_, ?_⟩
  · intro v
    simp only [Formula.canonical, String.toList_ofList, isInstance_chars_iff]
    exact exists_congr fun c => hrename v c hf
  · intro room rule others
    rw [check_universalInstantiation, allowsInstantiation_iff]
    refine exists_congr fun v => exists_congr fun scope => and_congr_right ?_
    rintro rfl
    exact exists_congr fun c => hrename v c hf
  · rw [generalizes_iff]
    refine exists_congr fun v => exists_congr fun scope => and_congr_right ?_
    rintro rfl
    exact and_congr_left' (exists_congr fun c => hrename v c hf)

/-- From `Ax(Ey(F(x,y)))` to `Ey(F(y,y))`, where the letter put for `x` is the variable of another
quantifier. And from `F(a,b)` there is no way to `Ex(F(x,x))`. -/
theorem isInstance_of_bound_letter :
    let x : Letter := ⟨'x', rfl⟩
    let y : Letter := ⟨'y', rfl⟩
    let F : Letter → Letter → Formula := fun a b =>
      .predicate ⟨'F', rfl⟩ (.ofLetter a) [.ofLetter b]
    let scope : Formula := .quantified .existential y (F x y)
    let result : Formula := .quantified .existential y (F y y)
    let pair : Formula := F ⟨'a', rfl⟩ ⟨'b', rfl⟩
    scope.hasSingleTerms = true ∧ result.hasSingleTerms = true ∧ pair.hasSingleTerms = true ∧
      isInstance scope.canonical.toList 'x' result.canonical.toList = true ∧
      universalInstantiation.check 0 result [⟨.quantified .universal x scope, .premise⟩] =
        .ok true ∧
      ¬ generalizes (.quantified .existential x (F x x)) pair = true := by
  intro x y F scope result pair
  have hrename : result = scope.rename x y := by decide
  refine ⟨by decide, by decide, by decide, ?_, ?_, ?_⟩
  · exact ((isInstance_iff_rename (by decide) (by decide)).1 x).2 ⟨y, hrename⟩
  · exact ((isInstance_iff_rename (by decide) (by decide)).2.1 0 .premise []).2
      ⟨x, scope, rfl, y, hrename⟩
  · rw [(isInstance_iff_rename (by decide) (by decide)).2.2]
    rintro ⟨v, scope', hscope, ⟨c, hc⟩, -⟩
    cases hscope
    -- both letters of the pair would be the one that is put for `x`
    have hletters : pair.objectLetters = [c, c] := congrArg Formula.objectLetters hc
    have hpair : pair.objectLetters = [⟨'a', rfl⟩, ⟨'b', rfl⟩] := rfl
    rw [hpair] at hletters
    cases hletters

end Rule

end NaturalDeduction
