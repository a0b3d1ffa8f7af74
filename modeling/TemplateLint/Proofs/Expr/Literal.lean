import TemplateLint.Expr.Fact
import TemplateLint.Proofs.Basic
import TemplateLint.Proofs.Text.Part

/-!
# Literals in expressions

An argument that is one literal keeps the source of that literal and its offset, however
many labels, parentheses, blanks and comments stand around it. The offset is where the
tokens are cut, so the source stands there in the text of the argument.
-/

namespace TemplateLint.Expr

/-- The literal that a token is. -/
def Token.literal? : Token → Option Literal
  | .string source => some ⟨source, false⟩
  | .verbatim source => some ⟨source, true⟩
  | _ => none

/-- Some token is the literal and stands at the offset. -/
def HasLiteral (lit : Literal) (offset : Nat) (tokens : List Lexeme) : Prop :=
  ∃ lexeme ∈ tokens, lexeme.token.literal? = some lit ∧ lexeme.offset = offset

/-- The expression is a literal at an offset, perhaps with labels. -/
inductive IsLiteral (lit : Literal) (offset : Nat) : Expr → Prop
  /-- The literal itself. -/
  | bare : IsLiteral lit offset (.literal lit offset)
  /-- A literal with a label. -/
  | labelled {label : Text} {value : Expr} (h : IsLiteral lit offset value) :
    IsLiteral lit offset (.labelled label value)

/-- A word is no literal. -/
theorem literal?_wordToken (word : Text) : (wordToken word).literal? = none := by
  unfold wordToken
  repeat' split
  all_goals rfl

/-- The source of a literal starts the text in which its token is found, and its first code
point tells its kind. -/
theorem isPrefix_of_lexemeAt? {c : CodePoint} {rest : Text} {token : Token} {length : Nat}
    {lit : Literal} (h : lexemeAt? c rest = some (some token, length))
    (hlit : token.literal? = some lit) :
    lit.source <+: c :: rest ∧ lit = Literal.ofSource lit.source := by
  revert h
  fun_cases lexemeAt? c rest
  case case5 whole _ _ hc =>
    intro h
    obtain ⟨width, _, he⟩ := Option.map_eq_some_iff.mp h
    cases he
    cases hlit
    refine ⟨List.take_prefix _ _, ?_⟩
    rw [Literal.ofSource, List.take_succ_cons, List.head?_cons, hc]
    rfl
  case case9 whole _ _ _ _ hstart =>
    intro h
    obtain ⟨width, _, he⟩ := Option.map_eq_some_iff.mp h
    cases he
    cases hlit
    have hc : c = '@' := (List.cons_prefix_cons.mp (List.isPrefixOf_iff_prefix.mp hstart)).1.symm
    refine ⟨List.take_prefix _ _, ?_⟩
    rw [Literal.ofSource, List.take_succ_cons, List.head?_cons, hc]
    rfl
  case case3 | case10 | case11 =>
    intro h
    obtain ⟨width, _, he⟩ := Option.map_eq_some_iff.mp h
    cases he
    try cases hlit
  case case15 =>
    intro h
    cases h
    rw [literal?_wordToken] at hlit
    cases hlit
  all_goals
    intro h
    cases h
    try cases hlit

/-- Every token is the one found at the front of what follows its offset. -/
theorem lexemeAt?_of_mem {offset skip : Nat} {t : Text} {tokens : List Lexeme} {lexeme : Lexeme}
    (h : lexemesFrom? offset skip t = some tokens) (hmem : lexeme ∈ tokens) :
    ∃ before c rest length, t = before ++ c :: rest ∧ offset + before.length = lexeme.offset ∧
      lexemeAt? c rest = some (some lexeme.token, length) := by
  fun_induction lexemesFrom? offset skip t generalizing tokens with
  | case1 =>
    cases h
    cases hmem
  | case2 offset c rest skip ih =>
    obtain ⟨before, d, more, length, rfl, hoffset, hat⟩ := ih h hmem
    refine ⟨c :: before, d, more, length, rfl, ?_, hat⟩
    rw [List.length_cons]
    omega
  | case3 => cases h
  | case4 offset c rest token length hat ih =>
    obtain ⟨later, hread, rfl⟩ := Option.map_eq_some_iff.mp h
    rcases List.mem_append.mp hmem with hfirst | hrest
    · cases token with
      | none => cases hfirst
      | some token =>
        cases List.mem_singleton.mp hfirst
        exact ⟨[], c, rest, length, rfl, rfl, hat⟩
    · obtain ⟨before, d, more, width, rfl, hoffset, hfound⟩ := ih hread hrest
      refine ⟨c :: before, d, more, width, rfl, ?_, hfound⟩
      rw [List.length_cons]
      omega

/-- A literal among the tokens of a text stands in the text at its offset. -/
theorem HasLiteral.isAt {t : Text} {tokens : List Lexeme} {lit : Literal} {offset : Nat}
    (h : HasLiteral lit offset tokens) (hread : lexemes? t = some tokens) :
    Text.IsAt lit.source t offset ∧ lit = Literal.ofSource lit.source := by
  obtain ⟨lexeme, hmem, hlit, rfl⟩ := h
  obtain ⟨before, c, rest, length, rfl, hoffset, hat⟩ := lexemeAt?_of_mem hread hmem
  obtain ⟨⟨after, hafter⟩, hkind⟩ := isPrefix_of_lexemeAt? hat hlit
  refine ⟨⟨before, after, ?_, ?_⟩, hkind⟩
  · rw [hafter]
  · rw [← hoffset, Nat.zero_add]

/-- A literal after a mark is among the tokens from the mark on. -/
theorem HasLiteral.of_afterMark? {lit : Literal} {offset : Nat} {c : Char}
    {tokens rest : List Lexeme} (h : HasLiteral lit offset rest)
    (hmark : afterMark? c tokens = some rest) : HasLiteral lit offset tokens := by
  obtain ⟨lexeme, hmem, hlexeme⟩ := h
  unfold afterMark? at hmark
  split at hmark
  · split at hmark
    · cases hmark
      exact ⟨lexeme, List.mem_cons_of_mem _ hmem, hlexeme⟩
    · cases hmark
  · cases hmark

/-- A target with members, calls or elements is no literal. -/
theorem eq_of_readSuffixes? {lit : Literal} {offset fuel : Nat} {target value : Expr}
    {tokens rest : List Lexeme} (h : readSuffixes? fuel target tokens = some (value, rest))
    (hvalue : IsLiteral lit offset value) : value = target := by
  induction fuel generalizing target tokens with
  | zero => cases h
  | succ fuel ih =>
    unfold readSuffixes? at h
    split at h
    · split at h
      · split at h
        · cases ih h
          cases hvalue
        · cases h
      · split at h
        · obtain ⟨arguments, _, hread⟩ := Option.bind_eq_some_iff.mp h
          cases ih hread
          cases hvalue
        · split at h
          · obtain ⟨arguments, _, hread⟩ := Option.bind_eq_some_iff.mp h
            obtain ⟨_, _, hread⟩ := Option.bind_eq_some_iff.mp hread
            cases ih hread
            cases hvalue
          · cases h
            rfl
    · cases h
      rfl

/-- An atom that is a literal is read off the first token. -/
theorem hasLiteral_of_readAtom? {lit : Literal} {offset fuel : Nat} {value : Expr}
    {tokens rest : List Lexeme} (h : readAtom? fuel tokens = some (value, rest))
    (hvalue : IsLiteral lit offset value) : HasLiteral lit offset tokens := by
  cases fuel with
  | zero => cases h
  | succ fuel =>
    unfold readAtom? at h
    split at h
    case h_2 =>
      cases h
      cases hvalue
      exact ⟨_, List.mem_cons_self, rfl, rfl⟩
    case h_3 =>
      cases h
      cases hvalue
      exact ⟨_, List.mem_cons_self, rfl, rfl⟩
    case h_9 =>
      obtain ⟨_, _, h⟩ := Option.bind_eq_some_iff.mp h
      obtain ⟨_, _, h⟩ := Option.bind_eq_some_iff.mp h
      cases h
      cases hvalue
    all_goals
      cases h
      try cases hvalue

/-- An expression or operand that is a literal has it among its tokens. -/
theorem hasLiteral_of_readExpr? {lit : Literal} {offset fuel : Nat} {value : Expr}
    {tokens rest : List Lexeme} (hvalue : IsLiteral lit offset value) :
    (readExpr? fuel tokens = some (value, rest) → HasLiteral lit offset tokens) ∧
      (readOperand? fuel tokens = some (value, rest) → HasLiteral lit offset tokens) := by
  induction fuel generalizing value tokens rest with
  | zero => exact ⟨nofun, nofun⟩
  | succ fuel ih =>
    constructor
    · intro h
      rw [readExpr?] at h
      obtain ⟨⟨first, more⟩, hfirst, h⟩ := Option.bind_eq_some_iff.mp h
      obtain ⟨⟨others, left⟩, _, h⟩ := Option.bind_eq_some_iff.mp h
      cases h
      split at hvalue
      · exact (ih hvalue).2 hfirst
      · cases hvalue
    · intro h
      rw [readOperand?] at h
      split at h
      · next inner hmark =>
        obtain ⟨⟨found, more⟩, hfound, h⟩ := Option.bind_eq_some_iff.mp h
        obtain ⟨_, _, h⟩ := Option.bind_eq_some_iff.mp h
        cases h
        exact ((ih hvalue).1 hfound).of_afterMark? hmark
      · obtain ⟨⟨atom, more⟩, hatom, h⟩ := Option.bind_eq_some_iff.mp h
        cases eq_of_readSuffixes? h hvalue
        exact hasLiteral_of_readAtom? hatom hvalue

/-- An argument that is a literal has it among its tokens. -/
theorem hasLiteral_of_readArgument? {lit : Literal} {offset fuel : Nat} {value : Expr}
    {tokens rest : List Lexeme} (hvalue : IsLiteral lit offset value)
    (h : readArgument? fuel tokens = some (value, rest)) : HasLiteral lit offset tokens := by
  cases fuel with
  | zero => cases h
  | succ fuel =>
    unfold readArgument? at h
    split at h
    · split at h
      · obtain ⟨⟨found, more⟩, hfound, h⟩ := Option.bind_eq_some_iff.mp h
        cases h
        cases hvalue with
        | labelled hvalue =>
          obtain ⟨lexeme, hmem, hlexeme⟩ := (hasLiteral_of_readExpr? hvalue).1 hfound
          exact ⟨lexeme, List.mem_cons_of_mem _ (List.mem_cons_of_mem _ hmem), hlexeme⟩
      · exact (hasLiteral_of_readExpr? hvalue).1 h
    · exact (hasLiteral_of_readExpr? hvalue).1 h

/-- A literal that is the whole text stands in the text at its offset. -/
theorem isAt_of_ofText? {t : Text} {value : Expr} {lit : Literal} {offset : Nat}
    (h : ofText? t = some value) (hvalue : IsLiteral lit offset value) :
    Text.IsAt lit.source t offset ∧ lit = Literal.ofSource lit.source := by
  obtain ⟨tokens, hread, h⟩ := Option.bind_eq_some_iff.mp h
  split at h
  · next found hfound =>
    cases h
    exact (hasLiteral_of_readArgument? hvalue hfound).isAt hread
  · cases h

/-- Only a literal has the fact of a literal, and its value is the decoded one. -/
theorem isLiteral_of_fact {value : Text} {lit : Literal} {offset : Nat} :
    ∀ {found : Expr}, found.fact = .ok (.literal value lit offset) →
      IsLiteral lit offset found ∧ Literal.decode lit.source = .ok value
  | .labelled _ inner, h => by
    rw [fact] at h
    obtain ⟨hliteral, hdecode⟩ := isLiteral_of_fact h
    exact ⟨.labelled hliteral, hdecode⟩
  | .literal _ _, h => by
    rw [fact] at h
    obtain ⟨decoded, hdecode, h⟩ := Outcome.bind_eq_ok h
    cases h
    exact ⟨.bare, hdecode⟩
  | .sum terms, h => by
    rw [fact] at h
    obtain ⟨found, _, h⟩ := Outcome.bind_eq_ok h
    have hterms : Fact.ofTerms found = .literal value lit offset := Except.ok.inj h
    unfold Fact.ofTerms at hterms
    split at hterms
    · cases hterms
    · split at hterms <;> cases hterms
  | .interpolated, h | .char, h | .number _, h | .bool _, h | .null, h => by
    rw [fact] at h
    cases h
  | .name _, h | .create _ _, h | .member _ _, h | .invoke _ _, h | .index _ _, h => by
    rw [fact] at h
    cases h

end TemplateLint.Expr

namespace TemplateLint

/-- The literal that is a whole argument stands in its text at the offset that the fact
gives, and the constant is its decoded value. -/
theorem Fact.literal_isAt {t : Text} {fact : Fact} {lit : Literal} (h : Fact.ofText t = .ok fact)
    (hlit : fact.literal? = some lit) :
    Text.IsAt lit.source t fact.literalOffset ∧ lit = Literal.ofSource lit.source ∧
      ∃ value, fact.constant = some value ∧ Literal.decode lit.source = .ok value := by
  cases fact with
  | literal value found offset =>
    cases hlit
    unfold Fact.ofText at h
    split at h
    · cases h
    · next expr hexpr =>
      obtain ⟨hliteral, hdecode⟩ := Expr.isLiteral_of_fact h
      obtain ⟨hat, hkind⟩ := Expr.isAt_of_ofText? hexpr hliteral
      exact ⟨hat, hkind, value, rfl, hdecode⟩
  | _ => cases hlit

end TemplateLint
