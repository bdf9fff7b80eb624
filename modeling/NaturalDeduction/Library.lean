import NaturalDeduction.Proof.Basic
import NaturalDeduction.TruthTable
import NaturalDeduction.Yaml.Document

/-!
# Collections of proofs and truth tables

A document may hold a list of proofs, each a list of triples of a formula, a rule and citations, or
a list of truth tables, each a record of a formula, the heads of the columns and the rows. A
document that counts as nothing holds none.
-/

namespace NaturalDeduction.Library

/-- The value of a document, which may be missing. -/
def document (source : Option String) : Except Error Value :=
  match source with
  | none => .error .missingDocument
  | some s => (Yaml.read s).mapError .document

/-- The items of a value. -/
def itemsOf (v : Value) : Except Error (List Value) :=
  match v.items? with
  | some items => .ok items
  | none => .error .wrongKind

/-- The entries of a document. -/
def entries (v : Value) : Except Error (List Value) :=
  if v.isFalsy then .ok [] else itemsOf v

/-- The proofs of a document. The conclusion of each is the formula of its last line. -/
def proofs (source : Option String) : Except Error (List Proof) := do
  let items ← entries (← document source)
  items.mapM fun v => do Proof.ofTriples (← itemsOf v) .null

/-- A truth table as it was written down. -/
structure Table where
  /-- The formula. -/
  formula : Formula
  /-- The heads of the columns. -/
  headers : List Value
  /-- The rows. -/
  rows : List (List Value)

namespace Table

/-- A field of a record. -/
def field (v : Value) (name : String) : Except Error Value :=
  match v.opened with
  | .record fields =>
    match Value.find? fields (.text name) with
    | some w => .ok w
    | none => .error (.missingField name)
  | _ => .error .wrongKind

/-- The table that a record describes. -/
def ofValue (v : Value) : Except Error Table := do
  let f ← (Formula.parseValue .standard (← field v "formula")).mapError .parse
  let headers ← itemsOf (← field v "headers")
  let rows ← (← itemsOf (← field v "table")).mapM itemsOf
  .ok ⟨f, headers, rows⟩

/-- Whether the heads of the columns are those of the formula. -/
def headersMatch (t : Table) : Bool :=
  Value.agreeAll t.headers (t.formula.tableHeaders.map .text)

/-- A cell of a truth table as a value. -/
def cellValue : Option TruthValue → Value
  | some (.ofBool b) => .bool b
  | some (.other v) => v
  | _ => .null

/-- Whether the rows are those of the formula. -/
def rowsMatch (t : Table) : Bool :=
  Value.agreeAll (t.rows.map .list)
    ((t.formula.truthTable false).map fun row => .list (row.map cellValue))

end Table

/-- The truth tables of a document. -/
def tables (source : Option String) : Except Error (List Table) := do
  let items ← entries (← document source)
  items.mapM Table.ofValue

end NaturalDeduction.Library
