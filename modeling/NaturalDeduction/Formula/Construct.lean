import NaturalDeduction.Error
import NaturalDeduction.Formula.Equality

/-!
# Formulas from values

The constructors for values whose kind has not been looked at yet. Each of them either makes the
formula or names what is wrong with the first value that does not fit. Also the limits of a parser
may come as values (`Formula.parseWithin`).
-/

namespace NaturalDeduction.Formula

/-- The formula that a value is the text of. -/
def ofValue : Value → Except Error Formula
  | .text s => (parse s).mapError .parse
  | v => .error (.notFormula v)

/-- The greatest whole number that a limit admits, for a text of a given size. A limit that is
beyond all numbers, or no size at all, admits everything. -/
def admitted (size : Nat) : Extent → Int
  | .infinite true => -1
  | e => e.floor?.getD size

/-- How deep operators may be nested whatever the limit. The number is made up: it stands for the
calls that fit on the stack of an interpreter, which depends on where the parser is called from. -/
def greatestDepth : Int := 980

/-- A fault of the parser, reported with the limits as they were given. -/
def limitFault (maxLength maxDepth : Value) : ParseError → Error
  | .tooLong _ => .tooLong maxLength
  | .tooDeep _ => .tooDeep maxDepth
  | e => .parse e

/-- The formula that a value is the text of, within limits that are values. A limit on the nesting
that is no number is looked at after the length and the parentheses. Limits that are whole numbers
up to `greatestDepth` are those of `parseValue` (`parseWithin_int`). -/
def parseWithin (maxLength maxDepth v : Value) : Except Error Formula :=
  match v with
  | .text s =>
    let size := s.length
    match maxLength.extent? with
    | none => .error .wrongKind
    | some length =>
      let depth := (maxDepth.extent?.map (admitted size)).getD (-1)
      match parseChars ⟨admitted size length, min depth greatestDepth⟩ s.toList with
      | .ok f => .ok f
      | .error (.tooDeep e) =>
        .error (if greatestDepth < depth then .exhausted
          else if maxDepth.extent?.isNone then .wrongKind
          else limitFault maxLength maxDepth (.tooDeep e))
      | .error e => .error (limitFault maxLength maxDepth e)
  | v => .error (.parse (.notText v))

/-- Within limits that are whole numbers, a text is read as `parseValue` reads it. -/
theorem parseWithin_int (maxLength : Int) {maxDepth : Int} (hdepth : maxDepth ≤ greatestDepth)
    (v : Value) :
    parseWithin (.int maxLength) (.int maxDepth) v =
      (parseValue ⟨maxLength, maxDepth⟩ v).mapError
        (limitFault (.int maxLength) (.int maxDepth)) := by
  cases v with
  | text s =>
    have hadmitted : ∀ n : Int, admitted s.length (.ofInt n) = n := by
      intro n
      simp [admitted, Extent.ofInt, Extent.floor?]
    have hmin : min maxDepth greatestDepth = maxDepth := Int.min_eq_left hdepth
    simp only [parseWithin, parseValue, Value.extent?, Value.toInt?, Option.map_some,
      Option.getD_some, hadmitted, hmin]
    cases parseChars ⟨maxLength, maxDepth⟩ s.toList with
    | ok f => rfl
    | error e =>
      cases e with
      | tooDeep n =>
        have hnot : ¬ greatestDepth < maxDepth := Int.not_lt.2 hdepth
        exact congrArg Except.error (if_neg hnot)
      | _ => rfl
  | _ => rfl

/-- The letter that a value is the text of. -/
def letterOf? (v : Value) : Option Letter :=
  v.toText?.bind fun s => readVariable? s.toList

/-- The propositional variable with a given name. -/
def atomOf (name : Value) : Except Error Formula :=
  match letterOf? name with
  | some a => .ok (.atom a)
  | none => .error (.notAtomName name)

/-- The texts of the terms of a predicate. A value without items, or with an item that is not a
text, is of the wrong kind. -/
def termTexts (terms : Value) : Except Error (List Value × List String) := do
  let some items := terms.items? | .error .wrongKind
  let some texts := items.mapM Value.toText? | .error .wrongKind
  .ok (items, texts)

/-- The predicate with a given symbol and given terms, where a term may hold several letters with
commas between them. -/
def predicateOf (symbol terms : Value) : Except Error Formula := do
  let (items, texts) ← termTexts terms
  match symbol.toText?.map String.toList, texts.mapM fun s => Term.read? s.toList with
  | some [c], some (t :: ts) =>
    match PredicateSymbol.ofChar? c with
    | some P => .ok (.predicate P t ts)
    | none => .error (.notPredicate symbol items)
  | _, _ => .error (.notPredicate symbol items)

/-- The predicate that a value is the text of. -/
def predicateOfText : Value → Except Error Formula
  | .text s =>
    match readApplication? s.toList with
    | some (P, t) => .ok (.application P t)
    | none => .error (.notPredicateText s)
  | _ => .error .wrongKind

end NaturalDeduction.Formula
