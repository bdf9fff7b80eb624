import NaturalDeduction.Rule.Implication
import NaturalDeduction.Rule.Lift

/-!
# Rules of replacement

These rules are equivalences. Each is given as a simple rule for whole formulas, in which target and
source may change places, and applies inside formulas by lifting
(`NaturalDeduction.Rule.Lift`).
-/

namespace NaturalDeduction.Rule

/-- Whether a connective is conjunction or disjunction. -/
def isLattice : Connective → Bool
  | .and => true
  | .or => true
  | _ => false

/-- `p & q` and `q & p`, `p V q` and `q V p`. -/
def commutes : SimpleRule
  | .binary op tl tr, .binary op' sl sr => isLattice op && op = op' && tl.same sr && tr.same sl
  | _, _ => false

/-- `(p & q) & r` and `p & (q & r)`, and likewise for disjunction. The regrouped forms of the target
are made and compared with the source. -/
def associates (t s : Formula) : Bool :=
  match t, s with
  | .binary op l r, .binary op' _ _ =>
    let fromLeft :=
      match l with
      | .binary o p q => o = op && (Formula.binary op p (.binary op q r)).same s
      | _ => false
    let fromRight :=
      match r with
      | .binary o p q => o = op && (Formula.binary op (.binary op l p) q).same s
      | _ => false
    isLattice op && op = op' && (fromLeft || fromRight)
  | _, _ => false

/-- `p` and `~~p`. -/
def doublyNegates (t s : Formula) : Bool :=
  match longerFirst t s with
  | (.not (.not f), shorter) => f.same shorter
  | _ => false

/-- Whether the first formula is `~(p & q)` and the second `~p V ~q`, or the same with the
connectives exchanged; a formula counts as a negation of its own negation. -/
def movesNegation : SimpleRule
  | .not (.binary op p q), .binary op' l r =>
    op'.dual? = some op && p.isNegation l && q.isNegation r
  | _, _ => false

/-- `~(p & q)` and `~p V ~q`, `~(p V q)` and `~p & ~q`. -/
def deMorgan (t s : Formula) : Bool :=
  match t with
  | .not _ => movesNegation t s
  | _ => movesNegation s t

/-- `p & (q V r)` and `(p & q) V (p & r)`, and the same with the connectives exchanged. -/
def distributes (t s : Formula) : Bool :=
  match longerFirst s t with
  | (.binary outer l r, .binary op p (.binary inner q q')) =>
    op.dual? = some inner && outer = inner && l.same (.binary op p q) && r.same (.binary op p q')
  | _ => false

/-- `p -> q` and `~q -> ~p`. -/
def transposes : SimpleRule
  | .binary .implies tl tr, .binary .implies sl sr => tl.isNegation sr && tr.isNegation sl
  | _, _ => false

/-- Whether the first formula is `p -> q` and the second `~p V q`. -/
def impliesAsDisjunction : SimpleRule
  | .binary .implies p q, .binary .or l r => p.isNegation l && q.same r
  | _, _ => false

/-- `p -> q` and `~p V q`. -/
def impliesMaterially (t s : Formula) : Bool :=
  match t with
  | .binary .implies _ _ => impliesAsDisjunction t s
  | _ => impliesAsDisjunction s t

/-- `p <-> q` and `(p -> q) & (q -> p)`, `p <-> q` and `(p & q) V (~p & ~q)`. -/
def equalsMaterially (t s : Formula) : Bool :=
  match longerFirst t s with
  | (.binary .and (.binary .implies a b) (.binary .implies c d), .binary .equivalent p q) =>
    a.same p && b.same q && c.same q && d.same p
  | (.binary .or (.binary .and a b) (.binary .and c d), .binary .equivalent p q) =>
    a.same p && b.same q && c.isNegation p && d.isNegation q
  | _ => false

/-- Whether the first formula is `p -> (q -> r)` and the second `(p & q) -> r`. -/
def exportsFrom : SimpleRule
  | .binary .implies p (.binary .implies q r), .binary .implies (.binary .and l m) n =>
    p.same l && q.same m && r.same n
  | _, _ => false

/-- `(p & q) -> r` and `p -> (q -> r)`. -/
def exports (t s : Formula) : Bool :=
  exportsFrom t s || exportsFrom s t

/-- Whether the first formula is a disjunction of the second with itself. -/
def repeats : SimpleRule
  | .binary .or l r, other => l.same r && l.same other
  | _, _ => false

/-- `p` and `p V p`. -/
def isTautologous (t s : Formula) : Bool :=
  repeats s t || repeats t s

end NaturalDeduction.Rule
