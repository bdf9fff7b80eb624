import NaturalDeduction.Proofs.Lifting
import NaturalDeduction.Proofs.Replacement
import NaturalDeduction.Proofs.Roles

/-!
# Target and source may change places

The rules of replacement are equivalences, so it should not matter which of the two formulas is the
target. Each rule sees to this in its own way. Some are symmetric as they stand, or try both orders.
Double negation, distribution and material equivalence take the longer formula for the one with more
operators; in their schemas it always is the longer one, so that they hold exactly if the schema
does in one of the two orders (`doublyNegates_iff`, `distributes_iff`, `equalsMaterially_iff`). De
Morgan's rule, material implication and quantifier negation look at the form of the target; the form
that they look for cannot be that of both sides (`comm_of_oriented`). Associativity makes the
regrouped forms of the target only, and these are all that is needed (`associates_iff`).

What holds of the simple rules holds of the lifted ones (`lift_comm`). The main result is
`Rule.replacement_comm_and_schemas`.
-/

namespace NaturalDeduction.Rule

/-! ## Rules that go by length -/

/-- The first formula is the second one with two signs of negation. -/
def DoublyNegated (f g : Formula) : Prop :=
  f.same (.not (.not g)) = true

/-- The first formula is `(p & q) V (p & r)` where the second is `p & (q V r)`, or the same with the
connectives exchanged. -/
def Distributed (f g : Formula) : Prop :=
  ∃ (op dual : Connective) (p q r : Formula), op.dual? = some dual ∧
    f.same (.binary dual (.binary op p q) (.binary op p r)) = true ∧
    g.same (.binary op p (.binary dual q r)) = true

/-- The second formula is `p <-> q` and the first `(p -> q) & (q -> p)`, or `(p & q) V (m & n)` with
a negation `m` of `p` and a negation `n` of `q`. -/
def Equated (f g : Formula) : Prop :=
  ∃ p q : Formula, g.same (.binary .equivalent p q) = true ∧
    (f.same (.binary .and (.binary .implies p q) (.binary .implies q p)) = true ∨
      ∃ m n : Formula, m.isNegation p = true ∧ n.isNegation q = true ∧
        f.same (.binary .or (.binary .and p q) (.binary .and m n)) = true)

/-- Two negations less make a formula shorter. -/
theorem canonicalLength_lt_of_doublyNegated {f g : Formula} (h : DoublyNegated f g) :
    g.canonicalLength < f.canonicalLength := by
  have hle := g.canonicalLength_le_operandLength
  rw [Formula.canonicalLength_of_same h, Formula.canonicalLength_not, Formula.operandLength_not]
  omega

/-- A formula that is taken out of both sides makes the whole shorter. -/
theorem canonicalLength_lt_of_distributed {f g : Formula} (h : Distributed f g) :
    g.canonicalLength < f.canonicalLength := by
  obtain ⟨op, dual, p, q, r, -, hf, hg⟩ := h
  have hp := p.operandLength_pos
  rw [Formula.canonicalLength_of_same hf, Formula.canonicalLength_of_same hg]
  simp only [Formula.canonicalLength_binary, Formula.operandLength_binary]
  omega

/-- A biconditional is shorter than the two sides that it stands for. -/
theorem canonicalLength_lt_of_equated {f g : Formula} (h : Equated f g) :
    g.canonicalLength < f.canonicalLength := by
  obtain ⟨p, q, hg, hf⟩ := h
  -- the biconditional has three characters of its own, fewer than parentheses around two operands
  have hsign : (Connective.equivalent.symbol).length = 3 := rfl
  rw [Formula.canonicalLength_of_same hg, Formula.canonicalLength_binary]
  rcases hf with hf | ⟨m, n, -, -, hf⟩
  · rw [Formula.canonicalLength_of_same hf]
    simp only [Formula.canonicalLength_binary, Formula.operandLength_binary]
    omega
  · rw [Formula.canonicalLength_of_same hf]
    simp only [Formula.canonicalLength_binary, Formula.operandLength_binary]
    omega

section

variable (t s : Formula)

/-- The check accepts double negations in both directions, and nothing else. -/
theorem doublyNegates_iff :
    doublyNegates t s = true ↔ DoublyNegated t s ∨ DoublyNegated s t := by
  rw [← longerFirst_iff canonicalLength_lt_of_doublyNegated t s]
  unfold doublyNegates
  rcases longerFirst t s with ⟨long, short⟩
  constructor
  · intro h
    split at h
    · next f short heq =>
      obtain ⟨rfl, rfl⟩ := Prod.mk.inj heq
      exact Formula.same_not_iff.2 (Formula.same_not_iff.2 h)
    · cases h
  · intro h
    obtain ⟨f, rfl, hf⟩ := Formula.exists_of_not_same (Formula.same_symm h)
    obtain ⟨g, rfl, hg⟩ := Formula.exists_of_not_same hf
    exact Formula.same_symm hg

/-- The check accepts distributions in both directions, and nothing else. -/
theorem distributes_iff :
    distributes t s = true ↔ Distributed t s ∨ Distributed s t := by
  rw [or_comm, ← longerFirst_iff canonicalLength_lt_of_distributed s t]
  unfold distributes
  rcases longerFirst s t with ⟨long, short⟩
  constructor
  · intro h
    split at h
    · next outer l r op p inner q q' heq =>
      obtain ⟨rfl, rfl⟩ := Prod.mk.inj heq
      simp only [Bool.and_eq_true, decide_eq_true_eq] at h
      obtain ⟨⟨⟨hdual, rfl⟩, hl⟩, hr⟩ := h
      refine ⟨op, outer, p, q, q', hdual, ?_, Formula.same_refl _⟩
      exact Formula.same_binary_iff.2 ⟨rfl, hl, hr⟩
    · cases h
  · rintro ⟨op, dual, p, q, r, hdual, hlong, hshort⟩
    obtain ⟨l₁, r₁, rfl, hl, hr⟩ := Formula.exists_of_binary_same (Formula.same_symm hlong)
    obtain ⟨p₁, i₁, rfl, hp, hi⟩ := Formula.exists_of_binary_same (Formula.same_symm hshort)
    obtain ⟨q₁, r₂, rfl, hq, hr₂⟩ := Formula.exists_of_binary_same hi
    have hleft : l₁.same (.binary op p₁ q₁) = true :=
      Formula.same_of_same hl (Formula.same_binary_iff.2 ⟨rfl, hp, hq⟩)
    have hright : r₁.same (.binary op p₁ r₂) = true :=
      Formula.same_of_same hr (Formula.same_binary_iff.2 ⟨rfl, hp, hr₂⟩)
    simp [hdual, hleft, hright]

/-- The check accepts readings of biconditionals in both directions, and nothing else. -/
theorem equalsMaterially_iff :
    equalsMaterially t s = true ↔ Equated t s ∨ Equated s t := by
  rw [← longerFirst_iff canonicalLength_lt_of_equated t s]
  unfold equalsMaterially
  rcases longerFirst t s with ⟨long, short⟩
  constructor
  · intro h
    split at h
    · next a b c d p q heq =>
      obtain ⟨rfl, rfl⟩ := Prod.mk.inj heq
      simp only [Bool.and_eq_true] at h
      obtain ⟨⟨⟨ha, hb⟩, hc⟩, hd⟩ := h
      refine ⟨p, q, Formula.same_refl _, .inl ?_⟩
      simp only [Formula.same_binary_iff]
      exact ⟨trivial, ⟨trivial, ha, hb⟩, trivial, hc, hd⟩
    · next a b c d p q heq =>
      obtain ⟨rfl, rfl⟩ := Prod.mk.inj heq
      simp only [Bool.and_eq_true] at h
      obtain ⟨⟨⟨ha, hb⟩, hc⟩, hd⟩ := h
      refine ⟨p, q, Formula.same_refl _, .inr ⟨c, d, hc, hd, ?_⟩⟩
      simp only [Formula.same_binary_iff]
      exact ⟨trivial, ⟨trivial, ha, hb⟩, trivial, Formula.same_refl c, Formula.same_refl d⟩
    · cases h
  · rintro ⟨p, q, hshort, hlong⟩
    obtain ⟨p₁, q₁, rfl, hp, hq⟩ := Formula.exists_of_binary_same (Formula.same_symm hshort)
    rcases hlong with hlong | ⟨m, n, hm, hn, hlong⟩
    · obtain ⟨l, r, rfl, hl, hr⟩ := Formula.exists_of_binary_same (Formula.same_symm hlong)
      obtain ⟨a, b, rfl, ha, hb⟩ := Formula.exists_of_binary_same hl
      obtain ⟨c, d, rfl, hc, hd⟩ := Formula.exists_of_binary_same hr
      simp [Formula.same_of_same ha hp, Formula.same_of_same hb hq, Formula.same_of_same hc hq,
        Formula.same_of_same hd hp]
    · obtain ⟨l, r, rfl, hl, hr⟩ := Formula.exists_of_binary_same (Formula.same_symm hlong)
      obtain ⟨a, b, rfl, ha, hb⟩ := Formula.exists_of_binary_same hl
      obtain ⟨c, d, rfl, hc, hd⟩ := Formula.exists_of_binary_same hr
      simp [Formula.same_of_same ha hp, Formula.same_of_same hb hq,
        Formula.isNegation_of_same hc hp hm, Formula.isNegation_of_same hd hq hn]

end

/-- A rule that holds exactly if a schema does in one of the two orders is symmetric. -/
theorem comm_of_schema {R : SimpleRule} {P : Formula → Formula → Prop}
    (hR : ∀ t s : Formula, R t s = true ↔ P t s ∨ P s t) (t s : Formula) : R t s = R s t := by
  rw [Bool.eq_iff_iff, hR, hR, or_comm]

/-! ## Rules that go by the form of the target -/

/-- A rule that puts the formula of a given form first is symmetric, if its schema has this form on
the first side and not on the second. -/
theorem comm_of_oriented {R : SimpleRule} (schema : SimpleRule) (form : Formula → Prop)
    (hfirst : ∀ {t s : Formula}, form t → R t s = schema t s)
    (hsecond : ∀ {t s : Formula}, ¬ form t → R t s = schema s t)
    (hschema : ∀ {t s : Formula}, schema t s = true → form t ∧ ¬ form s) (t s : Formula) :
    R t s = R s t := by
  by_cases ht : form t
  · by_cases hs : form s
    · rw [hfirst ht, hfirst hs, Bool.eq_iff_iff]
      constructor
      · intro h
        exact absurd hs (hschema h).2
      · intro h
        exact absurd ht (hschema h).2
    · rw [hfirst ht, hsecond hs]
  · by_cases hs : form s
    · rw [hsecond ht, hfirst hs]
    · rw [hsecond ht, hsecond hs, Bool.eq_iff_iff]
      constructor
      · intro h
        exact absurd (hschema h).1 hs
      · intro h
        exact absurd (hschema h).1 ht

/-- The laws of De Morgan can be used in both directions. -/
theorem deMorgan_comm (t s : Formula) : deMorgan t s = deMorgan s t := by
  refine comm_of_oriented movesNegation (fun f => ∃ g, f = .not g) ?_ ?_ ?_ t s
  · rintro t s ⟨g, rfl⟩
    rfl
  · intro t s ht
    unfold deMorgan
    split
    · next g => exact absurd ⟨g, rfl⟩ ht
    · rfl
  · intro t s h
    unfold movesNegation at h
    split at h
    · refine ⟨⟨_, rfl⟩, ?_⟩
      rintro ⟨g, hg⟩
      cases hg
    · cases h

/-- A conditional can be put for its reading, and the other way round. -/
theorem impliesMaterially_comm (t s : Formula) : impliesMaterially t s = impliesMaterially s t := by
  refine comm_of_oriented impliesAsDisjunction (fun f => ∃ p q, f = .binary .implies p q)
    ?_ ?_ ?_ t s
  · rintro t s ⟨p, q, rfl⟩
    rfl
  · intro t s ht
    unfold impliesMaterially
    split
    · next p q => exact absurd ⟨p, q, rfl⟩ ht
    · rfl
  · intro t s h
    unfold impliesAsDisjunction at h
    split at h
    · refine ⟨⟨_, _, rfl⟩, ?_⟩
      rintro ⟨p, q, hpq⟩
      cases hpq
    · cases h

/-- A negation can be moved through quantifiers in both directions. -/
theorem negatesQuantifier_comm (t s : Formula) : negatesQuantifier t s = negatesQuantifier s t := by
  refine comm_of_oriented movesThroughBlock (fun f => ∃ q v g, f = .not (.quantified q v g))
    ?_ ?_ ?_ t s
  · rintro t s ⟨q, v, g, rfl⟩
    rfl
  · intro t s ht
    unfold negatesQuantifier
    split
    · next q v g => exact absurd ⟨q, v, g, rfl⟩ ht
    · rfl
  · intro t s h
    unfold movesThroughBlock at h
    split at h
    · unfold dualBlocks at h
      split at h
      · refine ⟨⟨_, _, _, rfl⟩, ?_⟩
        rintro ⟨q, v, g, hg⟩
        cases hg
      · cases h
    · cases h

/-! ## The other rules -/

/-- Sides can be exchanged in both directions. -/
theorem commutes_comm (t s : Formula) : commutes t s = commutes s t := by
  have hswap : ∀ {t s : Formula}, commutes t s = true → commutes s t = true := by
    intro t s h
    unfold commutes at h
    split at h
    · next op tl tr op' sl sr =>
      simp only [Bool.and_eq_true, decide_eq_true_eq] at h
      obtain ⟨⟨⟨hop, rfl⟩, hlr⟩, hrl⟩ := h
      simp [commutes, hop, Formula.same_symm hlr, Formula.same_symm hrl]
    · cases h
  rw [Bool.eq_iff_iff]
  exact ⟨hswap, hswap⟩

/-- The first formula is `(p & q) & r` where the second is `p & (q & r)`, or likewise for
disjunction. -/
def Regrouped (f g : Formula) : Prop :=
  ∃ (op : Connective) (p q r : Formula), isLattice op = true ∧
    f.same (.binary op (.binary op p q) r) = true ∧
    g.same (.binary op p (.binary op q r)) = true

/-- The check accepts regrouping in both directions, and nothing else. -/
theorem associates_iff (t s : Formula) :
    associates t s = true ↔ Regrouped t s ∨ Regrouped s t := by
  constructor
  · intro h
    unfold associates at h
    split at h
    · next op l r op' sl sr =>
      simp only [Bool.and_eq_true, Bool.or_eq_true, decide_eq_true_eq] at h
      obtain ⟨⟨hop, rfl⟩, h | h⟩ := h
      · split at h
        · next o p q =>
          simp only [Bool.and_eq_true, decide_eq_true_eq] at h
          obtain ⟨rfl, hsame⟩ := h
          exact .inl ⟨o, p, q, r, hop, Formula.same_refl _, Formula.same_symm hsame⟩
        · cases h
      · split at h
        · next o p q =>
          simp only [Bool.and_eq_true, decide_eq_true_eq] at h
          obtain ⟨rfl, hsame⟩ := h
          exact .inr ⟨o, l, p, q, hop, Formula.same_symm hsame, Formula.same_refl _⟩
        · cases h
    · cases h
  · rintro (⟨op, p, q, r, hop, ht, hs⟩ | ⟨op, p, q, r, hop, hs, ht⟩)
    · obtain ⟨l, r₁, rfl, hl, hr⟩ := Formula.exists_of_binary_same (Formula.same_symm ht)
      obtain ⟨p₁, q₁, rfl, hp, hq⟩ := Formula.exists_of_binary_same hl
      have hsame : (Formula.binary op p₁ (.binary op q₁ r₁)).same s = true := by
        refine Formula.same_of_same ?_ (Formula.same_symm hs)
        simp only [Formula.same_binary_iff]
        exact ⟨trivial, hp, trivial, hq, hr⟩
      obtain ⟨sl, sr, rfl, -, -⟩ := Formula.exists_of_binary_same hsame
      simp [associates, hop, hsame]
    · obtain ⟨p₁, i, rfl, hp, hi⟩ := Formula.exists_of_binary_same (Formula.same_symm ht)
      obtain ⟨q₁, r₁, rfl, hq, hr⟩ := Formula.exists_of_binary_same hi
      have hsame : (Formula.binary op (.binary op p₁ q₁) r₁).same s = true := by
        refine Formula.same_of_same ?_ (Formula.same_symm hs)
        simp only [Formula.same_binary_iff]
        exact ⟨trivial, ⟨trivial, hp, hq⟩, hr⟩
      obtain ⟨sl, sr, rfl, -, -⟩ := Formula.exists_of_binary_same hsame
      simp [associates, hop, hsame]

/-- A conditional can be turned round in both directions. -/
theorem transposes_comm (t s : Formula) : transposes t s = transposes s t := by
  have hswap : ∀ {t s : Formula}, transposes t s = true → transposes s t = true := by
    intro t s h
    unfold transposes at h
    split at h
    · next tl tr sl sr =>
      rw [Formula.isNegation_comm tl, Formula.isNegation_comm tr, Bool.and_comm] at h
      exact h
    · cases h
  rw [Bool.eq_iff_iff]
  exact ⟨hswap, hswap⟩

/-- Every simple rule of replacement is symmetric. -/
theorem comm_of_mem_replacements {rule : Rule} (hrule : rule ∈ replacements) {R : SimpleRule}
    (hR : rule.simple? = some R) (t s : Formula) : R t s = R s t := by
  simp only [replacements, List.mem_cons, List.not_mem_nil, or_false] at hrule
  rcases hrule with rfl | rfl | rfl | rfl | rfl | rfl | rfl | rfl | rfl | rfl | rfl <;> cases hR
  · exact commutes_comm t s
  · exact comm_of_schema associates_iff t s
  · exact comm_of_schema doublyNegates_iff t s
  · exact deMorgan_comm t s
  · exact comm_of_schema distributes_iff t s
  · exact transposes_comm t s
  · exact impliesMaterially_comm t s
  · exact comm_of_schema equalsMaterially_iff t s
  · exact Bool.or_comm _ _
  · exact Bool.or_comm _ _
  · exact negatesQuantifier_comm t s

/-- **Target and source of a rule of replacement may change places**, for whole formulas and inside
of formulas. And the three rules that go by length hold exactly if their schema does in one of the
two orders. -/
theorem replacement_comm_and_schemas :
    (∀ rule ∈ replacements, ∃ R, rule.simple? = some R ∧
      ∀ t s : Formula, R t s = R s t ∧ lift R t s = lift R s t) ∧
      ∀ t s : Formula,
        (doublyNegates t s = true ↔ DoublyNegated t s ∨ DoublyNegated s t) ∧
          (distributes t s = true ↔ Distributed t s ∨ Distributed s t) ∧
          (equalsMaterially t s = true ↔ Equated t s ∨ Equated s t) := by
  constructor
  · intro rule hrule
    obtain ⟨R, hR⟩ : ∃ R, rule.simple? = some R := by
      cases rule <;> first | exact ⟨_, rfl⟩ | exact absurd hrule (by decide)
    have hcomm := comm_of_mem_replacements hrule hR
    exact ⟨R, hR, fun t s => ⟨hcomm t s, lift_comm hcomm t s⟩⟩
  · intro t s
    exact ⟨doublyNegates_iff t s, distributes_iff t s, equalsMaterially_iff t s⟩

/-- A biconditional with a negated side, under a negation and a quantifier: its two sides agree, or
neither holds, and what negates the negated side has no sign of negation. -/
theorem replacement_comm_of_equivalence :
    let p : Formula := .atom ⟨'p', rfl⟩
    let q : Formula := .atom ⟨'q', rfl⟩
    let short : Formula := .binary .equivalent (.not p) q
    let long : Formula := .binary .or (.binary .and (.not p) q) (.binary .and p (.not q))
    let inside : Formula → Formula := fun f => .quantified .universal ⟨'x', rfl⟩ (.not f)
    materialEquivalence ∈ replacements ∧ Equated long short ∧
      equalsMaterially short long = true ∧
      lift equalsMaterially (inside short) (inside long) = true ∧
      lift equalsMaterially (inside long) (inside short) = true := by
  intro p q short long inside
  obtain ⟨hcomm, hschemas⟩ := replacement_comm_and_schemas
  obtain ⟨R, hR, hsymmetric⟩ := hcomm materialEquivalence (by decide)
  cases hR
  have hequated : Equated long short :=
    ⟨.not p, q, Formula.same_refl _, .inr ⟨p, .not q, by decide, by decide, Formula.same_refl _⟩⟩
  have hsimple : equalsMaterially short long = true := (hschemas short long).2.2.2 (.inr hequated)
  have hlift : lift equalsMaterially (inside short) (inside long) = true :=
    lift_quantified _ _ (lift_not (lift_of_rule hsimple))
  refine ⟨by decide, hequated, hsimple, hlift, ?_⟩
  rw [← (hsymmetric (inside short) (inside long)).2]
  exact hlift

end NaturalDeduction.Rule
