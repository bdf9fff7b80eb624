import NaturalDeduction.Error
import NaturalDeduction.Formula.Equality

/-!
# Reading parts off formulas

A rule asks formulas for their operands, asks conjunction and disjunction for their dual and forms
formulas to compare others with. Not every formula has what is asked for, so all this may fail
(`RuleFault`): only what is joined by a connective has sides, only negations and quantified formulas
have an argument, and the conditionals have no dual.
-/

namespace NaturalDeduction

namespace Formula

/-- The fault of asking a formula for a part that it does not have. -/
def lacks (f : Formula) (part : String) : RuleFault :=
  .noAttribute (Text.quoted (String.ofList f.constructorName) ++ " object") part

/-- The left-hand side. -/
def lhs : Formula → Except RuleFault Formula
  | binary _ l _ => .ok l
  | f => .error (f.lacks "lhs")

/-- The right-hand side. -/
def rhs : Formula → Except RuleFault Formula
  | binary _ _ r => .ok r
  | f => .error (f.lacks "rhs")

/-- The argument of a negation and the scope of a quantifier. -/
def arg : Formula → Except RuleFault Formula
  | not f => .ok f
  | quantified _ _ f => .ok f
  | f => .error (f.lacks "arg")

/-- The variable of a quantifier. -/
def var : Formula → Except RuleFault Letter
  | quantified _ v _ => .ok v
  | f => .error (f.lacks "var")

end Formula

namespace Former

/-- The dual of conjunction, of disjunction and of a quantifier; `owner` is what is asked for it. -/
def dualOf (owner : String) : Former → Except RuleFault Former
  | binary op =>
    match op.dual? with
    | some dual => .ok (.binary dual)
    | none => .error (.noAttribute owner "dual")
  | quantified q => .ok (.quantified q.dual)
  | _ => .error (.noAttribute owner "dual")

/-- The dual, asked of what forms a formula. -/
def dual (k : Former) : Except RuleFault Former :=
  k.dualOf ("type object " ++ Text.quoted (String.ofList k.name))

/-- Two formulas joined. -/
def join (k : Former) (l r : Formula) : Except RuleFault Formula :=
  match k with
  | binary op => .ok (.binary op l r)
  | _ => .error .wrongParts

/-- A variable and its scope. -/
def bind (k : Former) (v : Letter) (f : Formula) : Except RuleFault Formula :=
  match k with
  | quantified q => .ok (.quantified q v f)
  | _ => .error .wrongParts

end Former

/-- The dual, asked of a formula. -/
def Formula.dual (f : Formula) : Except RuleFault Former :=
  f.former.dualOf (Text.quoted (String.ofList f.constructorName) ++ " object")

/-- The character at a place of a text. -/
def Text.charAt (s : List Char) (i : Nat) : Except RuleFault Char :=
  match s[i]? with
  | some c => .ok c
  | none => .error .noCharacter

end NaturalDeduction
