import TemplateLint.Proofs.Expr.Literal
import TemplateLint.Proofs.Expr.Printed

/-!
# Constant folding

Literals, parentheses and plus signs make up the constant texts. A printed constant is read
back whatever stands between its tokens and whether or not it has a label, and folding it
decodes its literals from left to right. Main statement: the fact about a printed constant has
the decoded literals one after the other as its value, keeps the literal if there is only one,
and is refused if some literal has no value.
-/

namespace TemplateLint

/-- The token that a literal is. -/
def Literal.token (lit : Literal) : Expr.Token :=
  if lit.isVerbatim then .verbatim lit.source else .string lit.source

namespace Expr

mutual

/-- What stands between the plus signs of a constant. -/
inductive Operand
  /-- A literal. -/
  | literal (lit : Literal)
  /-- A constant in parentheses. -/
  | group (inner : Chain)

/-- A constant: one operand, or several with plus signs between them. -/
inductive Chain
  /-- The last operand. -/
  | last (x : Operand)
  /-- An operand, a plus sign and the other operands. -/
  | plus (x : Operand) (rest : Chain)

end

mutual

/-- The tokens of an operand. -/
def Operand.tokens : Operand → List Token
  | .literal lit => [lit.token]
  | .group inner => .mark '(' :: (inner.tokens ++ [.mark ')'])

/-- The tokens of a constant. -/
def Chain.tokens : Chain → List Token
  | .last x => x.tokens
  | .plus x rest => x.tokens ++ .mark '+' :: rest.tokens

end

mutual

/-- The literals of an operand from left to right. -/
def Operand.literals : Operand → List Literal
  | .literal lit => [lit]
  | .group inner => inner.literals

/-- The literals of a constant from left to right. -/
def Chain.literals : Chain → List Literal
  | .last x => x.literals
  | .plus x rest => x.literals ++ rest.literals

end

mutual

/-- The literal that an operand is, up to parentheses. -/
def Operand.only? : Operand → Option Literal
  | .literal lit => some lit
  | .group inner => inner.only?

/-- The literal that a constant is, up to parentheses. -/
def Chain.only? : Chain → Option Literal
  | .last x => x.only?
  | .plus _ _ => none

end

/-- The tokens of a label. -/
def labelTokens : Option Text → List Token
  | none => []
  | some label => [.name label, .mark ':']

/-- The values of literals; the first one that is malformed is refused. -/
def decodeAll (literals : List Literal) : Except Failure (List Text) :=
  literals.mapM fun lit => Literal.decode lit.source

/-- Literals are decoded from left to right. -/
theorem decodeAll_append (first rest : List Literal) :
    decodeAll (first ++ rest) = (do
      let values ← decodeAll first
      let others ← decodeAll rest
      return values ++ others) :=
  List.mapM_append

/-! ### Folding expressions -/

/-- What is known about an expression follows from its literals: it has their values one after
the other, and it is a literal only if nothing is added to it. -/
structure Folds (value : Expr) (literals : List Literal) (only : Option Literal) : Prop where
  /-- Decoded literals are joined. -/
  ok : ∀ {values : List Text}, decodeAll literals = .ok values →
    ∃ fact, value.fact = .ok fact ∧ fact.constant = some values.flatten ∧ fact.literal? = only
  /-- A malformed literal is refused. -/
  error : ∀ {failure : Failure}, decodeAll literals = .error failure →
    value.fact = .error failure

/-- The literals of terms are the literals of the first term and those of the others. -/
inductive FoldsAll : List Expr → List Literal → Prop
  /-- There is no term. -/
  | nil : FoldsAll [] []
  /-- A term comes first. -/
  | cons {term : Expr} {terms : List Expr} {literals rest : List Literal}
      {only : Option Literal} (h : Folds term literals only) (hrest : FoldsAll terms rest) :
    FoldsAll (term :: terms) (literals ++ rest)

/-- A literal folds to its own value. -/
theorem Folds.literal (lit : Literal) (offset : Nat) :
    Folds (.literal lit offset) [lit] (some lit) where
  ok := by
    intro values h
    rw [decodeAll, List.mapM_cons] at h
    obtain ⟨value, hvalue, h⟩ := Outcome.bind_eq_ok h
    have hvalues : [value] = values := Except.ok.inj h
    refine ⟨.literal value lit offset, ?_, ?_, rfl⟩
    · rw [fact, hvalue]
      rfl
    · rw [← hvalues, List.flatten_singleton]
      rfl
  error := by
    intro failure h
    rw [decodeAll, List.mapM_cons] at h
    rw [fact]
    cases hvalue : Literal.decode lit.source with
    | ok value =>
      rw [hvalue] at h
      cases h
    | error found =>
      rw [hvalue] at h
      have hsame : found = failure := Except.error.inj h
      rw [hsame]
      rfl

/-- A label does not matter. -/
theorem Folds.labelled {value : Expr} {literals : List Literal} {only : Option Literal}
    (h : Folds value literals only) (label : Text) :
    Folds (.labelled label value) literals only := by
  have hfact : (Expr.labelled label value).fact = value.fact := by rw [fact]
  constructor
  · intro values hvalues
    rw [hfact]
    exact h.ok hvalues
  · intro failure hfailure
    rw [hfact]
    exact h.error hfailure

/-- Terms whose literals have values are constants. -/
theorem FoldsAll.facts_ok {terms : List Expr} {literals : List Literal}
    (h : FoldsAll terms literals) {values : List Text} (hvalues : decodeAll literals = .ok values) :
    ∃ found parts, facts terms = .ok found ∧ found.mapM Fact.constant = some parts ∧
      parts.flatten = values.flatten := by
  induction h generalizing values with
  | nil =>
    have hnil : [] = values := Except.ok.inj hvalues
    refine ⟨[], [], by rw [facts], rfl, ?_⟩
    rw [← hnil]
  | @cons term terms literals rest only hterm _ ih =>
    rw [decodeAll_append] at hvalues
    obtain ⟨front, hfront, hvalues⟩ := Outcome.bind_eq_ok hvalues
    obtain ⟨back, hback, hvalues⟩ := Outcome.bind_eq_ok hvalues
    have hjoined : front ++ back = values := Except.ok.inj hvalues
    obtain ⟨fact, hfact, hconstant, _⟩ := hterm.ok hfront
    obtain ⟨found, parts, hfound, hparts, hflatten⟩ := ih hback
    refine ⟨fact :: found, front.flatten :: parts, ?_, ?_, ?_⟩
    · rw [facts, hfact, hfound]
      rfl
    · rw [List.mapM_cons, hconstant, hparts]
      rfl
    · rw [List.flatten_cons, hflatten, ← hjoined, List.flatten_append]

/-- The first malformed literal of terms is refused. -/
theorem FoldsAll.facts_error {terms : List Expr} {literals : List Literal}
    (h : FoldsAll terms literals) {failure : Failure}
    (hfailure : decodeAll literals = .error failure) : facts terms = .error failure := by
  induction h with
  | nil => cases hfailure
  | @cons term terms literals rest only hterm _ ih =>
    rw [decodeAll_append] at hfailure
    rw [facts]
    cases hfront : decodeAll literals with
    | error found =>
      rw [hfront] at hfailure
      have hsame : found = failure := Except.error.inj hfailure
      rw [hterm.error hfront, hsame]
      rfl
    | ok front =>
      rw [hfront, Outcome.ok_bind] at hfailure
      have hback : decodeAll rest = .error failure := by
        cases hrest : decodeAll rest with
        | error found =>
          rw [hrest] at hfailure
          exact hfailure
        | ok back =>
          rw [hrest] at hfailure
          cases hfailure
      obtain ⟨fact, hfact, _⟩ := hterm.ok hfront
      rw [hfact, ih hback]
      rfl

/-- A sum of constants folds to their values one after the other. -/
theorem Folds.sum {terms : List Expr} {literals : List Literal} (h : FoldsAll terms literals) :
    Folds (.sum terms) literals none where
  ok := by
    intro values hvalues
    obtain ⟨found, parts, hfound, hparts, hflatten⟩ := h.facts_ok hvalues
    have hterms : Fact.ofTerms found = .concat (some parts.flatten) := by
      rw [Fact.ofTerms, hparts]
    refine ⟨.concat (some parts.flatten), ?_, ?_, rfl⟩
    · rw [fact, hfound, ← hterms]
      rfl
    · rw [← hflatten]
      rfl
  error := by
    intro failure hfailure
    rw [fact, h.facts_error hfailure]
    rfl

/-! ### Reading constants -/

/-- What may follow an operand. -/
def EndsOperand (rest : List Lexeme) : Prop :=
  ∀ lexeme, rest.head? = some lexeme → lexeme.token = .mark ')' ∨ lexeme.token = .mark '+'

/-- What may follow a constant. -/
def EndsChain (rest : List Lexeme) : Prop :=
  ∀ lexeme, rest.head? = some lexeme → lexeme.token = .mark ')'

/-- What follows a constant may follow its last operand. -/
theorem EndsChain.endsOperand {rest : List Lexeme} (h : EndsChain rest) : EndsOperand rest :=
  fun lexeme hlexeme => .inl (h lexeme hlexeme)

/-- A mark that is the next token is passed over. -/
theorem afterMark?_mark (c : Char) (offset : Nat) (rest : List Lexeme) :
    afterMark? c (⟨.mark c, offset⟩ :: rest) = some rest :=
  if_pos rfl

/-- Nothing is read as part of an operand behind its end. -/
theorem readSuffixes?_of_endsOperand {rest : List Lexeme} (h : EndsOperand rest) (fuel : Nat)
    (target : Expr) : readSuffixes? (fuel + 1) target rest = some (target, rest) := by
  cases rest with
  | nil =>
    unfold readSuffixes?
    rfl
  | cons lexeme rest =>
    obtain ⟨token, offset⟩ := lexeme
    have htoken : token = .mark ')' ∨ token = .mark '+' := h _ rfl
    unfold readSuffixes?
    rcases htoken with rfl | rfl <;> rfl

/-- Nothing is added behind the end of a constant. -/
theorem readTerms?_of_endsChain {rest : List Lexeme} (h : EndsChain rest) (fuel : Nat) :
    readTerms? (fuel + 1) rest = some ([], rest) := by
  have hplus : afterMark? '+' rest = none := by
    cases rest with
    | nil => rfl
    | cons lexeme rest =>
      obtain ⟨token, offset⟩ := lexeme
      have htoken : token = .mark ')' := h _ rfl
      rw [htoken]
      rfl
  rw [readTerms?, hplus]

/-- A literal is read as an operand. -/
theorem readOperand?_literal (lit : Literal) (offset fuel : Nat) {rest : List Lexeme}
    (h : EndsOperand rest) :
    readOperand? (fuel + 2) (⟨lit.token, offset⟩ :: rest) =
      some (.literal lit offset, rest) := by
  have hopen : afterMark? '(' (⟨lit.token, offset⟩ :: rest) = none := by
    unfold Literal.token
    split <;> rfl
  have hatom : readAtom? (fuel + 1) (⟨lit.token, offset⟩ :: rest) =
      some (.literal lit offset, rest) := by
    obtain ⟨source, isVerbatim⟩ := lit
    cases isVerbatim with
    | false => exact readAtom?.eq_3 ..
    | true => exact readAtom?.eq_4 ..
  rw [readOperand?, hopen]
  dsimp only
  rw [hatom]
  exact readSuffixes?_of_endsOperand h fuel _

/-- Several terms make a sum, and one term stands for itself. -/
def ofTerms (first : Expr) (others : List Expr) : Expr :=
  if others.isEmpty then first else .sum (first :: others)

/-- What is read behind a plus sign is read as an expression without the sign. So one statement
about terms serves both for a constant and for the rest of one. -/
theorem readExpr?_of_readTerms? {fuel offset : Nat} {tokens rest : List Lexeme} {first : Expr}
    {others : List Expr}
    (h : readTerms? (fuel + 1) (⟨.mark '+', offset⟩ :: tokens) = some (first :: others, rest)) :
    readExpr? (fuel + 1) tokens = some (ofTerms first others, rest) := by
  rw [readTerms?, afterMark?_mark] at h
  dsimp only at h
  obtain ⟨⟨term, more⟩, hterm, h⟩ := Option.bind_eq_some_iff.mp h
  obtain ⟨⟨terms, left⟩, hterms, h⟩ := Option.bind_eq_some_iff.mp h
  cases h
  rw [readExpr?, hterm]
  dsimp only [Option.bind_eq_bind, Option.bind_some]
  rw [hterms]
  rfl

-- The induction is on the constant. Reading an operand costs two levels of fuel for each of its
-- tokens, and the sign or parenthesis around an operand pays for the reading that meets it.
mutual

/-- An operand is read back as an expression that folds to its literals. -/
theorem Operand.exists_readOperand? : ∀ (x : Operand) {fuel : Nat} {front rest : List Lexeme},
    front.map Lexeme.token = x.tokens → 2 * front.length ≤ fuel → EndsOperand rest →
      ∃ value, readOperand? fuel (front ++ rest) = some (value, rest) ∧
        Folds value x.literals x.only?
  | .literal lit, fuel, front, rest, hfront, hfuel, hrest => by
    rw [Operand.tokens] at hfront
    obtain ⟨⟨token, offset⟩, rfl, htoken⟩ := List.map_eq_singleton_iff.mp hfront
    have htoken : token = lit.token := htoken
    obtain ⟨more, rfl⟩ : ∃ more, fuel = more + 2 := Nat.exists_eq_add_of_le' hfuel
    refine ⟨.literal lit offset, ?_, ?_⟩
    · rw [htoken]
      exact readOperand?_literal lit offset more hrest
    · rw [Operand.literals, Operand.only?]
      exact .literal lit offset
  | .group inner, fuel, front, rest, hfront, hfuel, hrest => by
    rw [Operand.tokens] at hfront
    obtain ⟨⟨token, offset⟩, tail, rfl, htoken, htail⟩ := List.map_eq_cons_iff.mp hfront
    obtain ⟨middle, last, rfl, hmiddle, hlast⟩ := List.map_eq_append_iff.mp htail
    obtain ⟨⟨close, closeOffset⟩, rfl, hclose⟩ := List.map_eq_singleton_iff.mp hlast
    have htoken : token = .mark '(' := htoken
    have hclose : close = .mark ')' := hclose
    subst htoken hclose
    simp only [List.length_cons, List.length_append, List.length_nil] at hfuel
    obtain ⟨more, rfl⟩ : ∃ more, fuel = more + 2 := Nat.exists_eq_add_of_le' (by omega)
    have hends : EndsChain (⟨.mark ')', closeOffset⟩ :: rest) := by
      intro lexeme hlexeme
      cases hlexeme
      rfl
    obtain ⟨first, others, _, hfolds, hterms⟩ :=
      inner.exists_readTerms? hmiddle (by omega : 2 * middle.length + 1 ≤ more) hends
    have hread := readExpr?_of_readTerms? (hterms 0)
    refine ⟨ofTerms first others, ?_, ?_⟩
    · rw [List.cons_append, List.append_assoc, List.singleton_append, readOperand?,
        afterMark?_mark]
      dsimp only
      rw [hread]
      rfl
    · rw [Operand.literals, Operand.only?]
      exact hfolds

/-- A constant is read back as terms that fold to its literals. -/
theorem Chain.exists_readTerms? : ∀ (chain : Chain) {fuel : Nat} {front rest : List Lexeme},
    front.map Lexeme.token = chain.tokens → 2 * front.length + 1 ≤ fuel → EndsChain rest →
      ∃ first others, FoldsAll (first :: others) chain.literals ∧
        Folds (ofTerms first others) chain.literals chain.only? ∧
        ∀ offset, readTerms? (fuel + 1) (⟨.mark '+', offset⟩ :: (front ++ rest)) =
          some (first :: others, rest)
  | .last x, fuel, front, rest, hfront, hfuel, hrest => by
    rw [Chain.tokens] at hfront
    obtain ⟨value, hvalue, hfolds⟩ :=
      x.exists_readOperand? hfront (by omega : 2 * front.length ≤ fuel) hrest.endsOperand
    obtain ⟨more, rfl⟩ : ∃ more, fuel = more + 1 := Nat.exists_eq_add_of_le' (by omega)
    rw [Chain.literals, Chain.only?]
    refine ⟨value, [], ?_, hfolds, fun offset => ?_⟩
    · rw [← List.append_nil x.literals]
      exact .cons hfolds .nil
    · rw [readTerms?, afterMark?_mark]
      dsimp only
      rw [hvalue]
      dsimp only [Option.bind_eq_bind, Option.bind_some]
      rw [readTerms?_of_endsChain hrest]
      rfl
  | .plus x later, fuel, front, rest, hfront, hfuel, hrest => by
    rw [Chain.tokens] at hfront
    obtain ⟨first, back, rfl, hfirst, hback⟩ := List.map_eq_append_iff.mp hfront
    obtain ⟨⟨token, plusOffset⟩, others, rfl, htoken, hothers⟩ := List.map_eq_cons_iff.mp hback
    have htoken : token = .mark '+' := htoken
    subst htoken
    simp only [List.length_cons, List.length_append] at hfuel
    have hends : EndsOperand (⟨.mark '+', plusOffset⟩ :: (others ++ rest)) := by
      intro lexeme hlexeme
      cases hlexeme
      exact .inr rfl
    obtain ⟨value, hvalue, hfolds⟩ :=
      x.exists_readOperand? hfirst (by omega : 2 * first.length ≤ fuel) hends
    obtain ⟨more, rfl⟩ : ∃ more, fuel = more + 1 := Nat.exists_eq_add_of_le' (by omega)
    obtain ⟨second, terms, hall, _, hterms⟩ :=
      later.exists_readTerms? hothers (by omega : 2 * others.length + 1 ≤ more) hrest
    have hwhole : FoldsAll (value :: second :: terms) (x.literals ++ later.literals) :=
      .cons hfolds hall
    rw [Chain.literals, Chain.only?]
    refine ⟨value, second :: terms, hwhole, .sum hwhole, fun offset => ?_⟩
    rw [readTerms?, afterMark?_mark]
    dsimp only
    rw [List.append_assoc, List.cons_append, hvalue]
    dsimp only [Option.bind_eq_bind, Option.bind_some]
    rw [hterms plusOffset]
    rfl

end

/-- A mark may stand between any tokens. -/
theorem Separated.append_mark {first rest : List Token} (hfirst : Separated first)
    (hrest : Separated rest) (c : CodePoint) : Separated (first ++ .mark c :: rest) := by
  have hback : Separated (.mark c :: rest) := List.isChain_cons.mpr ⟨fun _ _ => .inl rfl, hrest⟩
  refine List.isChain_append.mpr ⟨hfirst, hback, fun _ _ token htoken => .inr ?_⟩
  have hmark : .mark c = token := Option.some.inj htoken
  rw [← hmark]
  rfl

mutual

/-- The tokens of an operand may be printed without blanks. -/
theorem Operand.separated_tokens : ∀ x : Operand, Separated x.tokens
  | .literal lit => by
    rw [Operand.tokens]
    exact List.isChain_singleton _
  | .group inner => by
    rw [Operand.tokens]
    exact .append_mark List.isChain_nil
      (.append_mark inner.separated_tokens List.isChain_nil ')') '('

/-- The tokens of a constant may be printed without blanks. -/
theorem Chain.separated_tokens : ∀ chain : Chain, Separated chain.tokens
  | .last x => by
    rw [Chain.tokens]
    exact x.separated_tokens
  | .plus x rest => by
    rw [Chain.tokens]
    exact .append_mark x.separated_tokens rest.separated_tokens '+'

end

/-- An operand does not start with a name. -/
theorem Operand.exists_tokens_cons (x : Operand) :
    ∃ token tokens, x.tokens = token :: tokens ∧ ∀ name, token ≠ .name name := by
  cases x with
  | literal lit =>
    refine ⟨lit.token, [], by rw [Operand.tokens], fun name => ?_⟩
    unfold Literal.token
    split <;> exact nofun
  | group inner => exact ⟨.mark '(', _, by rw [Operand.tokens], nofun⟩

/-- A constant does not start with a name. -/
theorem Chain.exists_tokens_cons (chain : Chain) :
    ∃ token tokens, chain.tokens = token :: tokens ∧ ∀ name, token ≠ .name name := by
  cases chain with
  | last x =>
    rw [Chain.tokens]
    exact x.exists_tokens_cons
  | plus x rest =>
    obtain ⟨token, tokens, htokens, hname⟩ := x.exists_tokens_cons
    exact ⟨token, _, by rw [Chain.tokens, htokens, List.cons_append], hname⟩

/-- A label in front of an expression is read with it. -/
theorem readArgument?_label {fuel : Nat} {label : Text} {tokens rest : List Lexeme}
    {value : Expr} (h : readExpr? fuel tokens = some (value, rest)) (offset colon : Nat) :
    readArgument? (fuel + 1) (⟨.name label, offset⟩ :: ⟨.mark ':', colon⟩ :: tokens) =
      some (.labelled label value, rest) := by
  rw [readArgument?, if_pos rfl, h]
  rfl

/-- An argument that does not start with a name has no label. -/
theorem readArgument?_of_ne_name {lexeme : Lexeme} (h : ∀ name, lexeme.token ≠ .name name)
    (fuel : Nat) (tokens : List Lexeme) :
    readArgument? (fuel + 1) (lexeme :: tokens) = readExpr? fuel (lexeme :: tokens) := by
  unfold readArgument?
  split
  · next label _ _ _ _ heq =>
    have htoken := congrArg Lexeme.token (List.cons.inj heq).1
    exact absurd htoken (h label)
  · rfl

/-- A constant is read back, with its label or without one. -/
theorem Chain.exists_readArgument? (chain : Chain) (label : Option Text) {lexemes : List Lexeme}
    (h : lexemes.map Lexeme.token = labelTokens label ++ chain.tokens) :
    ∃ value, readArgument? (6 * lexemes.length + 6) lexemes = some (value, []) ∧
      Folds value chain.literals chain.only? := by
  have hend : EndsChain [] := nofun
  cases label with
  | none =>
    obtain ⟨first, others, _, hfolds, hterms⟩ :=
      chain.exists_readTerms? h (by omega : 2 * lexemes.length + 1 ≤ 6 * lexemes.length + 4) hend
    have hread := readExpr?_of_readTerms? (hterms 0)
    rw [List.append_nil] at hread
    obtain ⟨token, tokens, htokens, hname⟩ := chain.exists_tokens_cons
    obtain ⟨lexeme, rest, rfl, hlexeme, _⟩ := List.map_eq_cons_iff.mp (h.trans htokens)
    have hfirst : ∀ name, lexeme.token ≠ .name name := by
      rw [hlexeme]
      exact hname
    exact ⟨ofTerms first others, (readArgument?_of_ne_name hfirst _ rest).trans hread, hfolds⟩
  | some label =>
    obtain ⟨⟨token, offset⟩, tail, rfl, htoken, htail⟩ := List.map_eq_cons_iff.mp h
    obtain ⟨⟨mark, colon⟩, front, rfl, hmark, hfront⟩ := List.map_eq_cons_iff.mp htail
    have htoken : token = .name label := htoken
    have hmark : mark = .mark ':' := hmark
    obtain ⟨first, others, _, hfolds, hterms⟩ :=
      chain.exists_readTerms? hfront (by omega : 2 * front.length + 1 ≤ 6 * front.length + 16) hend
    have hread := readExpr?_of_readTerms? (hterms 0)
    rw [List.append_nil] at hread
    refine ⟨.labelled label (ofTerms first others), ?_, hfolds.labelled label⟩
    rw [htoken, hmark]
    exact readArgument?_label hread offset colon

/-- A printed constant is an expression that folds to its literals. -/
theorem Printed.exists_ofText? {chain : Chain} {label : Option Text} {t : Text}
    (h : Printed (labelTokens label ++ chain.tokens) t) :
    ∃ value, ofText? t = some value ∧ Folds value chain.literals chain.only? := by
  have hseparated : Separated (labelTokens label ++ chain.tokens) := by
    cases label with
    | none => exact chain.separated_tokens
    | some label =>
      have hname : Separated [.name label] := List.isChain_singleton _
      exact hname.append_mark chain.separated_tokens ':'
  obtain ⟨lexemes, hlexemes, htokens⟩ := h.exists_lexemesFrom? hseparated 0
  obtain ⟨value, hread, hfolds⟩ := chain.exists_readArgument? label htokens
  refine ⟨value, ?_, hfolds⟩
  have hcut : lexemes? t = some lexemes := hlexemes
  rw [ofText?, hcut]
  dsimp only [Option.bind_eq_bind, Option.bind_some]
  rw [hread]

end Expr

/-- Constant folding is correct. Take any constant made of literals, parentheses and plus signs,
with a label or without one, and print it with any blanks and comments between its tokens. If
some literal has no value, the text is refused. Otherwise its fact has the values of the literals
one after the other; the fact has a literal exactly when the constant is one up to parentheses,
and that literal stands in the text at the offset of the fact. -/
theorem Fact.ofText_printed {chain : Expr.Chain} {label : Option Text} {t : Text}
    (h : Expr.Printed (Expr.labelTokens label ++ chain.tokens) t) :
    ((∃ lit ∈ chain.literals, ∃ failure, Literal.decode lit.source = .error failure) →
      ∃ failure, Fact.ofText t = .error failure) ∧
    (∀ values : List Text,
      chain.literals.map (fun lit => Literal.decode lit.source) = values.map .ok →
      ∃ fact, Fact.ofText t = .ok fact ∧ fact.constant = some values.flatten ∧
        fact.literal? = chain.only? ∧
        ∀ lit, fact.literal? = some lit →
          t.slice fact.literalOffset (fact.literalOffset + lit.source.length) = lit.source) := by
  obtain ⟨value, hvalue, hfolds⟩ := h.exists_ofText?
  have hofText : Fact.ofText t = value.fact := by
    rw [Fact.ofText, hvalue]
  constructor
  · rintro ⟨lit, hmem, failure, hlit⟩
    cases hall : Expr.decodeAll chain.literals with
    | error found => exact ⟨found, hofText.trans (hfolds.error hall)⟩
    | ok values =>
      obtain ⟨value, hdecode⟩ := Outcome.exists_mapM_ok_iff.mp ⟨values, hall⟩ lit hmem
      cases hlit.symm.trans hdecode
  · intro values hvalues
    obtain ⟨fact, hfact, hconstant, honly⟩ := hfolds.ok (Outcome.mapM_eq_ok_iff.mpr hvalues)
    have hread := hofText.trans hfact
    refine ⟨fact, hread, hconstant, honly, ?_⟩
    intro lit hlit
    have hplace := (Fact.literal_isAt hread hlit).1
    have hslice := @Text.IsAt.slice_eq _ _ _ hplace 0 _ (Nat.le_refl lit.source.length)
    rw [Nat.add_zero] at hslice
    rw [hslice, Text.slice, List.drop_zero, Nat.sub_zero, List.take_length]

/-- A sum with a label, where a comment holds a quote and a literal holds the start of a comment
and a plus sign; a literal in parentheses behind a comment that holds it too; and a literal with
an unknown escape. -/
theorem Fact.ofText_printed_sum :
    let slashes : Literal := ⟨"\"//+\"", false⟩
    let quote : Literal := ⟨"@\"\"\"\"", true⟩
    let letter : Literal := ⟨"\"a\"", false⟩
    let escape : Literal := ⟨"\"\\q\"", false⟩
    let sum : Expr.Chain := .last (.group (.plus (.literal slashes) (.last (.literal quote))))
    let single : Expr.Chain := .last (.group (.last (.literal letter)))
    let broken : Expr.Chain := .plus (.literal letter) (.last (.literal escape))
    let sumText : Text := "m: /*\"*/ (\"//+\" + @\"\"\"\") // ("
    let singleText : Text := "/*\"a\"*/(\"a\")"
    let brokenText : Text := "\"a\"+\"\\q\""
    (Expr.Printed (Expr.labelTokens (some "m") ++ sum.tokens) sumText ∧
      ∃ fact, Fact.ofText sumText = .ok fact ∧
        fact.constant = some (Text.ofString "//+\"") ∧ fact.literal? = none) ∧
    (Expr.Printed (Expr.labelTokens none ++ single.tokens) singleText ∧
      ∃ fact, Fact.ofText singleText = .ok fact ∧ fact.literal? = some letter ∧
        singleText.slice fact.literalOffset (fact.literalOffset + 3) = letter.source) ∧
    Expr.Printed (Expr.labelTokens none ++ broken.tokens) brokenText ∧
      ∃ failure, Fact.ofText brokenText = .error failure := by
  intro slashes quote letter escape sum single broken sumText singleText brokenText
  have hslashes : Source.IsToken (.regular '"') slashes.source :=
    .regular rfl (.plain (by decide) (by decide) (by decide) (.plain (by decide) (by decide)
      (by decide) (.plain (by decide) (by decide) (by decide) .nil)))
  have hquote : Source.IsToken .verbatim quote.source := .verbatim (.doubled .nil)
  have hletter : Source.IsToken (.regular '"') letter.source :=
    .regular rfl (.plain (by decide) (by decide) (by decide) .nil)
  have hescape : Source.IsToken (.regular '"') escape.source :=
    .regular rfl (.escape (by decide) .nil)
  -- The gaps and the marks that the three texts are put together from.
  have hname : Expr.Spells (.name (Text.ofString "m")) "m" :=
    .name ⟨⟨'m', [], rfl, rfl⟩, by decide⟩ (by decide)
  have hmark : ∀ c ∈ Expr.marks, Expr.Spells (.mark c) [c] := fun c => .mark
  have hblank : Expr.IsGap " " := .blank rfl .nil
  have hopen : Expr.IsGap " /*\"*/ " := .blank rfl (.blockComment
    (@Source.IsToken.blockComment (Text.ofString "\"") (by decide)) hblank)
  have hcomment : Expr.IsGap "/*\"a\"*/" :=
    .blockComment (@Source.IsToken.blockComment (Text.ofString "\"a\"") (by decide)) .nil
  have hclose : Expr.IsLastGap " // (" :=
    .lineComment hblank (@Source.IsToken.lineComment (Text.ofString " (") (by decide))
  have hsum : Expr.Printed (Expr.labelTokens (some "m") ++ sum.tokens) sumText :=
    .cons .nil hname (.cons .nil (hmark ':' (by decide)) (.cons hopen (hmark '(' (by decide))
      (.cons .nil (.string hslashes) (.cons hblank (hmark '+' (by decide))
        (.cons hblank (.verbatim hquote) (.cons .nil (hmark ')' (by decide)) (.nil hclose)))))))
  have hsingle : Expr.Printed (Expr.labelTokens none ++ single.tokens) singleText :=
    .cons hcomment (hmark '(' (by decide)) (.cons .nil (.string hletter)
      (.cons .nil (hmark ')' (by decide)) (.nil (.gap .nil))))
  have hbroken : Expr.Printed (Expr.labelTokens none ++ broken.tokens) brokenText :=
    .cons .nil (.string hletter) (.cons .nil (hmark '+' (by decide))
      (.cons .nil (.string hescape) (.nil (.gap .nil))))
  obtain ⟨folded, hfolded, hconstant, hnone, _⟩ :=
    (Fact.ofText_printed hsum).2 [Text.ofString "//+", Text.ofString "\""] rfl
  obtain ⟨kept, hkept, _, honly, hslice⟩ :=
    (Fact.ofText_printed hsingle).2 [Text.ofString "a"] rfl
  have hmem : escape ∈ broken.literals := List.mem_cons_of_mem _ List.mem_cons_self
  have hrefused := (Fact.ofText_printed hbroken).1 ⟨escape, hmem, _, rfl⟩
  exact ⟨⟨hsum, folded, hfolded, hconstant, hnone⟩,
    ⟨hsingle, kept, hkept, honly, hslice letter honly⟩, hbroken, hrefused⟩

end TemplateLint
