import TemplateLint.Proofs.Expr.Grammar

/-!
# Expressions that stand further on

A text behind another one is cut into the same tokens with larger offsets, and the same rules of
the grammar derive an expression from them. Main statement: an expression behind a label gives the
fact that it gives without the label, and only the place of its literal moves; where there is no
fact, some literal among the tokens is malformed.
-/

namespace TemplateLint

namespace Expr

/-! ### Tokens -/

/-- The token `k` code points further on. -/
def Lexeme.shift (k : Nat) (lexeme : Lexeme) : Lexeme :=
  { lexeme with offset := lexeme.offset + k }

/-- A text that starts further on has the same tokens further on. -/
theorem lexemesFrom?_shift (k offset skip : Nat) (t : Text) :
    lexemesFrom? (offset + k) skip t =
      (lexemesFrom? offset skip t).map (List.map (Lexeme.shift k)) := by
  fun_induction lexemesFrom? offset skip t with
  | case1 =>
    unfold lexemesFrom?
    rfl
  | case2 offset c rest skip ih =>
    rw [lexemesFrom?_succ, Nat.add_right_comm, ih]
  | case3 offset c rest hat =>
    unfold lexemesFrom?
    rw [hat]
    rfl
  | case4 offset c rest token length hat ih =>
    rw [lexemesFrom?_zero hat, Nat.add_right_comm, ih, Option.map_map, Option.map_map]
    congr 1
    funext later
    cases token <;> rfl

/-! ### Derivations -/

mutual

/-- The expression with its literals `k` code points further on. -/
def shift (k : Nat) : Expr → Expr
  | .name text => .name text
  | .literal lit offset => .literal lit (offset + k)
  | .interpolated => .interpolated
  | .char => .char
  | .number isReal => .number isReal
  | .bool value => .bool value
  | .null => .null
  | .create typeName arguments => .create typeName (shiftAll k arguments)
  | .member target part => .member (shift k target) part
  | .invoke target arguments => .invoke (shift k target) (shiftAll k arguments)
  | .index target arguments => .index (shift k target) (shiftAll k arguments)
  | .sum terms => .sum (shiftAll k terms)
  | .labelled label value => .labelled label (shift k value)

/-- The expressions with their literals `k` code points further on. -/
def shiftAll (k : Nat) : List Expr → List Expr
  | [] => []
  | value :: values => shift k value :: shiftAll k values

end

/-- The names of a dotted name may stand further on. -/
theorem AreParts.shift {tokens : List Lexeme} {parts : List Text} (h : AreParts tokens parts)
    (k : Nat) : AreParts (tokens.map (Lexeme.shift k)) parts := by
  induction h with
  | nil => exact .nil
  | cons _ ih => exact .cons ih

mutual

/-- An argument may stand further on. -/
theorem IsArgument.shift {tokens : List Lexeme} {value : Expr} (k : Nat) :
    IsArgument tokens value → IsArgument (tokens.map (Lexeme.shift k)) (value.shift k)
  | .labelled h => by
    rw [Expr.shift]
    exact .labelled (h.shift k)
  | .expr h => .expr (h.shift k)

/-- An expression may stand further on. -/
theorem IsExpr.shift {tokens : List Lexeme} {value : Expr} (k : Nat) :
    IsExpr tokens value → IsExpr (tokens.map (Lexeme.shift k)) (value.shift k)
  | .operand h => .operand (h.shift k)
  | .sum hfirst hterms => by
    have hothers := hterms.shift k
    rw [shiftAll] at hothers
    rw [List.map_append, Expr.shift, shiftAll, shiftAll]
    exact .sum (hfirst.shift k) hothers

/-- Terms may stand further on. -/
theorem AreTerms.shift {tokens : List Lexeme} {terms : List Expr} (k : Nat) :
    AreTerms tokens terms → AreTerms (tokens.map (Lexeme.shift k)) (shiftAll k terms)
  | .nil => .nil
  | .cons hfirst hterms => by
    rw [List.map_cons, List.map_append, shiftAll]
    exact .cons (hfirst.shift k) (hterms.shift k)

/-- An operand may stand further on. -/
theorem IsOperand.shift {tokens : List Lexeme} {value : Expr} (k : Nat) :
    IsOperand tokens value → IsOperand (tokens.map (Lexeme.shift k)) (value.shift k)
  | .primary h => .primary (h.shift k)
  | .group h => by
    rw [List.map_cons, List.map_append]
    exact .group (h.shift k)

/-- A target may stand further on. -/
theorem IsPrimary.shift {tokens : List Lexeme} {value : Expr} (k : Nat) :
    IsPrimary tokens value → IsPrimary (tokens.map (Lexeme.shift k)) (value.shift k)
  | .atom h => .atom (h.shift k)
  | .member h => by
    rw [List.map_append, Expr.shift]
    exact .member (h.shift k)
  | .invoke h harguments => by
    rw [List.map_append, List.map_cons, Expr.shift]
    exact .invoke (h.shift k) (harguments.shift k)
  | .index h harguments => by
    rw [List.map_append, List.map_cons, List.map_append, Expr.shift]
    exact .index (h.shift k) (harguments.shift k)

/-- An atom may stand further on. -/
theorem IsAtom.shift {tokens : List Lexeme} {value : Expr} (k : Nat) :
    IsAtom tokens value → IsAtom (tokens.map (Lexeme.shift k)) (value.shift k)
  | .name _ _ | .string _ _ | .verbatim _ _ | .interpolated _ | .char _ | .number _ _ | .bool _ _
  | .null _ => by
    rw [Expr.shift]
    constructor
  | .create hnames harguments => by
    rw [List.map_cons, List.map_cons, List.map_append, List.map_cons, Expr.shift]
    exact .create (hnames.shift k) (harguments.shift k)

/-- Arguments in parentheses may stand further on. -/
theorem AreClosed.shift {tokens : List Lexeme} {arguments : List Expr} (k : Nat) :
    AreClosed tokens arguments → AreClosed (tokens.map (Lexeme.shift k)) (shiftAll k arguments)
  | .none i => .none (i + k)
  | .some h => by
    rw [List.map_append]
    exact .some (h.shift k)

/-- A list of arguments may stand further on. -/
theorem AreArguments.shift {tokens : List Lexeme} {arguments : List Expr} (k : Nat) :
    AreArguments tokens arguments →
      AreArguments (tokens.map (Lexeme.shift k)) (shiftAll k arguments)
  | .last h => .last (h.shift k)
  | .cons hfirst hothers => by
    rw [List.map_append, List.map_cons, shiftAll]
    exact .cons (hfirst.shift k) (hothers.shift k)

end

end Expr

/-! ### Facts -/

namespace Fact

/-- The fact with its literal `k` code points further on. -/
def shift (k : Nat) : Fact → Fact
  | .literal value lit offset => .literal value lit (offset + k)
  | fact => fact

variable (k : Nat) (fact : Fact)

@[simp] theorem constant_shift : (fact.shift k).constant = fact.constant := by
  cases fact <;> rfl

@[simp] theorem literal?_shift : (fact.shift k).literal? = fact.literal? := by
  cases fact <;> rfl

@[simp] theorem typeName_shift : (fact.shift k).typeName = fact.typeName := by
  cases fact <;> rfl

@[simp] theorem symbol_shift : (fact.shift k).symbol = fact.symbol := by
  cases fact <;> rfl

@[simp] theorem callee_shift : (fact.shift k).callee = fact.callee := by
  cases fact <;> rfl

@[simp] theorem dotted_shift : (fact.shift k).dotted = fact.dotted := by
  cases fact <;> rfl

/-- The fact about a sum does not depend on the places of its literals. -/
theorem ofTerms_shift (terms : List Fact) :
    ofTerms (terms.map (shift k)) = (ofTerms terms).shift k := by
  have hconstants : (terms.map (shift k)).mapM constant = terms.mapM constant := by
    induction terms with
    | nil => rfl
    | cons term terms ih => rw [List.map_cons, List.mapM_cons, List.mapM_cons, constant_shift, ih]
  have htypes : ((terms.map (shift k)).any fun term =>
      decide (term.typeName = some (Text.ofString "string"))) =
      terms.any fun term => decide (term.typeName = some (Text.ofString "string")) := by
    simp only [List.any_map, Function.comp_def, typeName_shift]
  unfold ofTerms
  rw [hconstants, htypes]
  cases terms.mapM constant with
  | some values => rfl
  | none =>
    dsimp only
    split <;> rfl

end Fact

namespace Expr

/-- A dotted name does not depend on its place. -/
theorem dotted?_shift (k : Nat) : ∀ value : Expr, dotted? (value.shift k) = dotted? value
  | .member target part => by
    rw [shift, dotted?, dotted?, dotted?_shift k target]
  | .name _ | .literal _ _ | .interpolated | .char | .number _ | .bool _ | .null | .create _ _
  | .invoke _ _ | .index _ _ | .sum _ | .labelled _ _ => by
    simp only [shift, dotted?]

/-- The name of a method does not depend on its place. -/
theorem callee?_shift (k : Nat) (value : Expr) : callee? (value.shift k) = callee? value := by
  cases value <;> rw [shift] <;> rfl

mutual

/-- An expression further on gives the same fact further on. -/
theorem fact_shift (k : Nat) : ∀ value : Expr,
    (value.shift k).fact = value.fact.map (Fact.shift k)
  | .labelled _ value => by
    rw [shift, fact, fact, fact_shift k value]
  | .literal lit offset => by
    rw [shift, fact, fact]
    cases Literal.decode lit.source <;> rfl
  | .sum terms => by
    rw [shift, fact, fact, facts_shift k terms]
    cases facts terms with
    | error failure => rfl
    | ok found => exact congrArg Except.ok (Fact.ofTerms_shift k found)
  | .member target part => by
    have hdotted := dotted?_shift k (.member target part)
    rw [shift] at hdotted ⊢
    rw [fact, fact, hdotted]
    rfl
  | .invoke target _ => by
    rw [shift, fact, fact, callee?_shift]
    rfl
  | .create _ _ | .index _ _ => by
    rw [shift, fact, fact]
    rfl
  | .name _ | .interpolated | .char | .number _ | .bool _ | .null => by
    rw [shift, fact]
    rfl

/-- Terms further on give the same facts further on. -/
theorem facts_shift (k : Nat) : ∀ terms : List Expr,
    facts (shiftAll k terms) = (facts terms).map (List.map (Fact.shift k))
  | [] => by
    rw [shiftAll, facts]
    rfl
  | term :: terms => by
    rw [shiftAll, facts, facts, fact_shift k term, facts_shift k terms]
    cases term.fact with
    | error failure => rfl
    | ok first => cases facts terms <;> rfl

end

/-- The fact about a text is the fact about the argument that its tokens derive. -/
theorem ofText_eq_fact {t : Text} {tokens : List Lexeme} {value : Expr}
    (htokens : lexemes? t = some tokens) (h : IsArgument tokens value) :
    Fact.ofText t = value.fact := by
  rw [Fact.ofText, ofText?_eq_some_iff.mpr ⟨tokens, htokens, h⟩]

/-! ### Malformed literals -/

/-- Some token is a literal that has no value for a reason. -/
def HasMalformed (failure : Failure) (tokens : List Lexeme) : Prop :=
  ∃ lexeme ∈ tokens, ∃ lit, lexeme.token.literal? = some lit ∧
    Literal.decode lit.source = .error failure

/-- A malformed literal stays one among more tokens. -/
theorem HasMalformed.mono {failure : Failure} {tokens others : List Lexeme}
    (h : HasMalformed failure tokens) (hsubset : tokens ⊆ others) :
    HasMalformed failure others := by
  obtain ⟨lexeme, hmem, hlexeme⟩ := h
  exact ⟨lexeme, hsubset hmem, hlexeme⟩

/-- An atom that is refused is a malformed literal. -/
theorem IsAtom.hasMalformed {tokens : List Lexeme} {value : Expr} {failure : Failure}
    (h : IsAtom tokens value) (hfact : value.fact = .error failure) :
    HasMalformed failure tokens := by
  cases h with
  | string source i | verbatim source i =>
    rw [fact] at hfact
    rcases Outcome.bind_eq_error hfact with hdecode | ⟨value, _, hvalue⟩
    · exact ⟨_, List.mem_cons_self, _, rfl, hdecode⟩
    · cases hvalue
  | name | interpolated | char | number | bool | null | create =>
    rw [fact] at hfact
    cases hfact

/-- A target that is refused is a malformed literal: an access is never refused. -/
theorem IsPrimary.hasMalformed {tokens : List Lexeme} {value : Expr} {failure : Failure}
    (h : IsPrimary tokens value) (hfact : value.fact = .error failure) :
    HasMalformed failure tokens := by
  cases h with
  | atom h => exact h.hasMalformed hfact
  | member | invoke | index =>
    rw [fact] at hfact
    cases hfact

/-- Terms are refused for the first one or for another. -/
theorem fact_or_facts_of_error {term : Expr} {terms : List Expr} {failure : Failure}
    (h : facts (term :: terms) = .error failure) :
    term.fact = .error failure ∨ facts terms = .error failure := by
  rw [facts] at h
  rcases Outcome.bind_eq_error h with hterm | ⟨first, _, hrest⟩
  · exact .inl hterm
  · rcases Outcome.bind_eq_error hrest with hterms | ⟨others, _, hothers⟩
    · exact .inr hterms
    · cases hothers

mutual

/-- An expression that is refused has a malformed literal. -/
theorem IsExpr.hasMalformed {tokens : List Lexeme} {value : Expr} {failure : Failure} :
    IsExpr tokens value → value.fact = .error failure → HasMalformed failure tokens
  | .operand h, hfact => h.hasMalformed hfact
  | .sum hfirst hterms, hfact => by
    rw [fact] at hfact
    rcases Outcome.bind_eq_error hfact with hfacts | ⟨found, _, hfound⟩
    · rcases fact_or_facts_of_error hfacts with herror | herror
      · exact (hfirst.hasMalformed herror).mono (List.subset_append_left _ _)
      · exact (hterms.hasMalformed herror).mono (List.subset_append_right _ _)
    · cases hfound

/-- Terms that are refused have a malformed literal. -/
theorem AreTerms.hasMalformed {tokens : List Lexeme} {terms : List Expr} {failure : Failure} :
    AreTerms tokens terms → facts terms = .error failure → HasMalformed failure tokens
  | .nil, hfacts => by
    rw [facts] at hfacts
    cases hfacts
  | .cons hfirst hterms, hfacts => by
    rcases fact_or_facts_of_error hfacts with herror | herror
    · exact (hfirst.hasMalformed herror).mono
        (List.subset_cons_of_subset _ (List.subset_append_left _ _))
    · exact (hterms.hasMalformed herror).mono
        (List.subset_cons_of_subset _ (List.subset_append_right _ _))

/-- An operand that is refused has a malformed literal. -/
theorem IsOperand.hasMalformed {tokens : List Lexeme} {value : Expr} {failure : Failure} :
    IsOperand tokens value → value.fact = .error failure → HasMalformed failure tokens
  | .primary h, hfact => h.hasMalformed hfact
  | .group h, hfact =>
    (h.hasMalformed hfact).mono (List.subset_cons_of_subset _ (List.subset_append_left _ _))

end

/-- The text of an expression is refused only for a malformed literal. -/
theorem IsExprText.exists_malformed {t : Text} {failure : Failure} (ht : IsExprText t)
    (h : Fact.ofText t = .error failure) :
    ∃ tokens, lexemes? t = some tokens ∧ HasMalformed failure tokens := by
  obtain ⟨tokens, value, htokens, hvalue⟩ := ht
  rw [ofText_eq_fact htokens (.expr hvalue)] at h
  exact ⟨tokens, htokens, hvalue.hasMalformed h⟩

/-! ### Labels -/

/-- A text behind a label: a name, a colon, and what may stand between tokens. -/
inductive Labels (name t : Text) : Text → Prop
  /-- The parts in order. -/
  | intro {source gap behind : Text} (hname : Spells (.name name) source) (hgap : IsGap gap)
      (hbehind : IsGap behind) :
    Labels name t (source ++ (gap ++ CodePoint.ofChar ':' :: (behind ++ t)))

/-- The tokens behind a label are the tokens of the text further on. -/
theorem Labels.exists_lexemes? {name t labelled : Text} (h : Labels name t labelled)
    {tokens : List Lexeme} (htokens : lexemes? t = some tokens) :
    ∃ k colon, lexemes? labelled =
      some (⟨.name name, 0⟩ :: ⟨.mark ':', colon⟩ :: tokens.map (Lexeme.shift k)) := by
  obtain @⟨source, gap, behind, hname, hgap, hbehind⟩ := h
  have hstop : ∀ c, (gap ++ CodePoint.ofChar ':' :: (behind ++ t)).head? = some c → IsStop c := by
    intro c hc
    refine hgap.isStop_head (fun d hd => ?_) hc
    cases hd
    exact .inr (.inr (by decide))
  obtain ⟨c, front, rfl, hfirst⟩ := lexemeAt?_of_spells hname fun _ => hstop
  have hcolon : lexemeAt? ':' ([] ++ (behind ++ t)) = some (some (.mark ':'), 1) := rfl
  have hfrom : ∀ offset, lexemesFrom? offset 0 t = some (tokens.map (Lexeme.shift offset)) := by
    intro offset
    have hshift := lexemesFrom?_shift offset 0 0 t
    rw [Nat.zero_add] at hshift
    rw [hshift, ← lexemes?, htokens]
    rfl
  rw [lexemes?, lexemesFrom?_of_lexemeAt? hfirst, hgap.lexemesFrom?_append,
    ← List.nil_append (behind ++ t), ← List.cons_append, lexemesFrom?_of_lexemeAt? hcolon,
    hbehind.lexemesFrom?_append, hfrom]
  exact ⟨_, _, rfl⟩

/-- An expression behind a label gives the fact that it gives alone, with its literal further
on. -/
theorem Labels.exists_fact {name t labelled : Text} (h : Labels name t labelled)
    (ht : IsExprText t) :
    ∃ k, Fact.ofText labelled = (Fact.ofText t).map (Fact.shift k) := by
  obtain ⟨tokens, value, htokens, hvalue⟩ := ht
  obtain ⟨k, colon, hlexemes⟩ := h.exists_lexemes? htokens
  have hplain : Fact.ofText t = value.fact := ofText_eq_fact htokens (.expr hvalue)
  have hlabelled : Fact.ofText labelled = (Expr.labelled name (value.shift k)).fact :=
    ofText_eq_fact hlexemes (.labelled (hvalue.shift k))
  refine ⟨k, ?_⟩
  rw [hplain, hlabelled, fact, fact_shift]

end Expr

end TemplateLint
