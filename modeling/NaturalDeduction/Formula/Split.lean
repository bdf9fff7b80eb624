import NaturalDeduction.Formula.Printer

/-!
# Splitting a formula text at its main operator

There is no precedence among the connectives. The main operator of a text is the first connective
that stands outside all parentheses, and only if there is none a leading negation or quantifier.
`split` finds it and cuts the text there; it looks at one level only and says nothing about the
operands. Parentheses that enclose the whole text are removed beforehand by `trimOuter`.

All of this is defined for every text, whether its parentheses match or not. Each operand is shorter
than the text it was cut from (`Split.length_lt`), which is why repeated splitting comes to an end.
-/

namespace NaturalDeduction

/-! ## Parentheses -/

/-- Whether every parenthesis has its partner, when `count` are open already. -/
def balancedFrom (count : Nat) : List Char → Bool
  | [] => count == 0
  | c :: s =>
    if c = '(' then balancedFrom (count + 1) s
    else if c = ')' then
      match count with
      | 0 => false
      | n + 1 => balancedFrom n s
    else balancedFrom count s

/-- Whether every parenthesis has its partner. -/
def balanced (s : List Char) : Bool :=
  balancedFrom 0 s

/-- Whether the count of open parentheses, starting at `count`, stays above zero to the end. -/
def staysOpen (count : Nat) : List Char → Bool
  | [] => true
  | c :: s =>
    if c = '(' then staysOpen (count + 1) s
    else if c = ')' then
      match count with
      | n + 2 => staysOpen (n + 1) s
      | _ => false
    else staysOpen count s

/-- The text between its first and its last character, if these are a pair of parentheses that
encloses the whole text. -/
def stripPair? : List Char → Option (List Char)
  | [] => none
  | c :: s =>
    if c = '(' ∧ s.getLast? = some ')' ∧ staysOpen 1 s.dropLast = true then some s.dropLast
    else none

/-- Without its outer pair a text is shorter by two characters. -/
theorem length_of_stripPair? {s t : List Char} (h : stripPair? s = some t) :
    t.length + 2 = s.length := by
  cases s with
  | nil => simp [stripPair?] at h
  | cons c s =>
    simp only [stripPair?] at h
    split at h
    · next hc =>
      cases h
      have hne : s ≠ [] := by
        rintro rfl
        simp at hc
      have hpos : 0 < s.length := List.length_pos_iff.2 hne
      simp [List.length_dropLast]
      omega
    · cases h

/-- The text without the pairs of parentheses that enclose all of it. -/
def trimOuter (s : List Char) : List Char :=
  match _h : stripPair? s with
  | some t => trimOuter t
  | none => s
termination_by s.length
decreasing_by
  have := length_of_stripPair? _h
  omega

/-- Trimming makes no text longer. -/
theorem length_trimOuter_le (s : List Char) : (trimOuter s).length ≤ s.length := by
  fun_induction trimOuter s with
  | case1 s t h ih =>
    have := length_of_stripPair? h
    omega
  | case2 => exact Nat.le_refl _

/-! ## Atomic formulas -/

/-- The variable that a text is. -/
def readVariable? : List Char → Option Letter
  | [c] => Letter.ofChar? c
  | _ => none

/-- Letters with commas between them, as one term. -/
def Term.read? : List Char → Option Term
  | [] => none
  | [c] => (Letter.ofChar? c).map Term.ofLetter
  | c :: d :: s =>
    if d = ',' then
      match Letter.ofChar? c, Term.read? s with
      | some a, some t => some ⟨a, t.letters⟩
      | _, _ => none
    else none

/-- A predicate symbol followed by letters in parentheses. -/
def readApplication? : List Char → Option (PredicateSymbol × Term)
  | c :: d :: s =>
    if d = '(' ∧ s.getLast? = some ')' then
      match PredicateSymbol.ofChar? c, Term.read? s.dropLast with
      | some P, some t => some (P, t)
      | _, _ => none
    else none
  | _ => none

/-- A predicate applied to single letters. -/
def Formula.application (P : PredicateSymbol) (t : Term) : Formula :=
  .predicate P (.ofLetter t.head) (t.tail.map .ofLetter)

/-! ## The main connective -/

/-- The connective whose sign stands at the front of a text, and the text after the sign. -/
def Connective.read? : List Char → Option (Connective × List Char)
  | 'V' :: s => some (.or, s)
  | '&' :: s => some (.and, s)
  | '-' :: '>' :: s => some (.implies, s)
  | '<' :: '-' :: '>' :: s => some (.equivalent, s)
  | _ => none

/-- The text before the first connective that stands where as many parentheses have been closed as
opened, the connective and the text after it. `depth` parentheses are open at the front. -/
def splitMainFrom (depth : Int) : List Char → Option (List Char × Connective × List Char)
  | [] => none
  | c :: s =>
    let later (depth : Int) :=
      (splitMainFrom depth s).map fun (before, op, after) => (c :: before, op, after)
    if c = '(' then later (depth + 1)
    else if c = ')' then later (depth - 1)
    else if depth = 0 then
      match Connective.read? (c :: s) with
      | some (op, after) => some ([], op, after)
      | none => later depth
    else later depth

/-- The text cut at its main connective. -/
def splitMain (s : List Char) : Option (List Char × Connective × List Char) :=
  splitMainFrom 0 s

/-- The position of the main connective. -/
def mainConnectiveIndex? (s : List Char) : Option Nat :=
  (splitMain s).map fun cut => cut.1.length

/-- A connective that is read stands at the beginning of the text. -/
theorem eq_of_read? {s after : List Char} {op : Connective}
    (h : Connective.read? s = some (op, after)) : s = op.symbol ++ after := by
  unfold Connective.read? at h
  split at h <;> cases h <;> rfl

/-- Cutting loses nothing. -/
theorem eq_of_splitMainFrom {depth : Int} {s before after : List Char} {op : Connective}
    (h : splitMainFrom depth s = some (before, op, after)) :
    s = before ++ op.symbol ++ after := by
  induction s generalizing depth before with
  | nil => simp [splitMainFrom] at h
  | cons c s ih =>
    have later : ∀ depth, (splitMainFrom depth s).map
        (fun (before, op, after) => (c :: before, op, after)) = some (before, op, after) →
        c :: s = before ++ op.symbol ++ after := by
      intro depth h
      obtain ⟨⟨b, o, a⟩, hcut, heq⟩ := Option.map_eq_some_iff.1 h
      cases heq
      simp [ih hcut]
    simp only [splitMainFrom] at h
    split at h
    · exact later _ h
    · split at h
      · exact later _ h
      · split at h
        · split at h
          · next hread =>
            cases h
            simpa using eq_of_read? hread
          · exact later _ h
        · exact later _ h

/-- No connective is written as nothing. -/
theorem Connective.symbol_length_pos (op : Connective) : 0 < op.symbol.length := by
  cases op <;> simp [symbol]

/-- Both sides of a text that is split are shorter than the text, as the connective between them has
a length. -/
theorem length_of_splitMain {s before after : List Char} {op : Connective}
    (h : splitMain s = some (before, op, after)) :
    before.length < s.length ∧ after.length < s.length := by
  have := congrArg List.length (eq_of_splitMainFrom h)
  have := op.symbol_length_pos
  simp only [List.length_append] at *
  omega

/-! ## All forms -/

/-- The ways in which a text can be put together at its top level. -/
inductive Split where
  /-- A variable. -/
  | letter (a : Letter)
  /-- A predicate symbol applied to letters. -/
  | application (P : PredicateSymbol) (t : Term)
  /-- Two operands and a connective between them. -/
  | binary (op : Connective) (lhs rhs : List Char)
  /-- The sign of negation and an operand. -/
  | negation (operand : List Char)
  /-- A quantifier, its variable and a scope, still in its parentheses. -/
  | quantifier (q : Quantifier) (v : Letter) (scope : List Char)

namespace Split

/-- The operator at which the text was cut, as it was written. -/
def operator : Split → Option (List Char)
  | letter _ => none
  | application _ _ => none
  | binary op _ _ => some op.symbol
  | negation _ => some ['~']
  | quantifier q v _ => some [q.symbol, v.char]

/-- The texts of the operands. -/
def operands : Split → List (List Char)
  | letter _ => []
  | application _ _ => []
  | binary _ l r => [l, r]
  | negation s => [s]
  | quantifier _ _ s => [s]

end Split

/-- A leading quantifier with a scope that is enclosed in parentheses. -/
def splitQuantifier? : List Char → Option Split
  | c :: d :: scope =>
    match Quantifier.ofChar? c, Letter.ofChar? d with
    | some q, some v => if (stripPair? scope).isSome then some (.quantifier q v scope) else none
    | _, _ => none
  | _ => none

/-- A leading negation or quantifier. -/
def splitUnary? : List Char → Option Split
  | [] => none
  | c :: s => if c = '~' then some (.negation s) else splitQuantifier? (c :: s)

/-- The form of a text, if it has one. An atomic formula is recognised first, then a main
connective, then a leading operator. -/
def split (s : List Char) : Option Split :=
  match readVariable? s with
  | some a => some (.letter a)
  | none =>
    match readApplication? s with
    | some (P, t) => some (.application P t)
    | none =>
      match splitMain s with
      | some (l, op, r) => some (.binary op l r)
      | none => splitUnary? s

/-- What a negation or a quantifier is about is a shorter text. -/
theorem length_of_splitUnary? {s : List Char} {form : Split} (h : splitUnary? s = some form) :
    ∀ t ∈ form.operands, t.length < s.length := by
  cases s with
  | nil => simp [splitUnary?] at h
  | cons c s =>
    simp only [splitUnary?] at h
    split at h
    · cases h
      simp [Split.operands]
    · cases s with
      | nil => simp [splitQuantifier?] at h
      | cons d scope =>
        simp only [splitQuantifier?] at h
        split at h
        · split at h
          · cases h
            simp only [Split.operands, List.mem_singleton, forall_eq, List.length_cons]
            omega
          · cases h
        · cases h

/-- Every operand is shorter than the text it was cut from. -/
theorem length_of_split {s : List Char} {form : Split} (h : split s = some form) :
    ∀ t ∈ form.operands, t.length < s.length := by
  unfold split at h
  split at h
  · cases h
    simp [Split.operands]
  · split at h
    · cases h
      simp [Split.operands]
    · split at h
      · next hcut =>
        cases h
        have := length_of_splitMain hcut
        simpa [Split.operands] using this
      · exact length_of_splitUnary? h

end NaturalDeduction
