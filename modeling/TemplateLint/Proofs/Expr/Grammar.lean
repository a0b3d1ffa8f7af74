import TemplateLint.Proofs.Expr.Folding

/-!
# The grammar of arguments

The readers of argument expressions look at the next tokens and take the longest reading that
goes on. The grammar says the same without an order of reading: which lists of tokens are an
argument, an expression, an operand and so on, and which expression they stand for. Main
statement: a text is read as an expression exactly when the grammar derives this expression from
its tokens, so the bound on the depth of the reading never cuts it off.
-/

namespace TemplateLint.Expr

/-! ### The grammar -/

/-- Names, each of them behind a point. -/
inductive AreParts : List Lexeme → List Text → Prop
  /-- There are no more names. -/
  | nil : AreParts [] []
  /-- A point and a name come first. -/
  | cons {i j : Nat} {part : Text} {tokens : List Lexeme} {parts : List Text}
      (h : AreParts tokens parts) :
    AreParts (⟨.mark '.', i⟩ :: ⟨.name part, j⟩ :: tokens) (part :: parts)

mutual

/-- An expression, perhaps with a label. -/
inductive IsArgument : List Lexeme → Expr → Prop
  /-- A name, a colon and an expression. -/
  | labelled {i j : Nat} {label : Text} {tokens : List Lexeme} {value : Expr}
      (h : IsExpr tokens value) :
    IsArgument (⟨.name label, i⟩ :: ⟨.mark ':', j⟩ :: tokens) (.labelled label value)
  /-- An expression alone. -/
  | expr {tokens : List Lexeme} {value : Expr} (h : IsExpr tokens value) : IsArgument tokens value

/-- An operand, or a sum of operands. -/
inductive IsExpr : List Lexeme → Expr → Prop
  /-- An operand alone. -/
  | operand {tokens : List Lexeme} {value : Expr} (h : IsOperand tokens value) :
    IsExpr tokens value
  /-- An operand and at least one more term. -/
  | sum {front back : List Lexeme} {first second : Expr} {others : List Expr}
      (hfirst : IsOperand front first) (hrest : AreTerms back (second :: others)) :
    IsExpr (front ++ back) (.sum (first :: second :: others))

/-- Operands, each of them behind a plus sign. -/
inductive AreTerms : List Lexeme → List Expr → Prop
  /-- There are no more operands. -/
  | nil : AreTerms [] []
  /-- A plus sign and an operand come first. -/
  | cons {i : Nat} {front back : List Lexeme} {first : Expr} {others : List Expr}
      (hfirst : IsOperand front first) (hrest : AreTerms back others) :
    AreTerms (⟨.mark '+', i⟩ :: (front ++ back)) (first :: others)

/-- What may stand between plus signs. -/
inductive IsOperand : List Lexeme → Expr → Prop
  /-- An atom with what is accessed in it. -/
  | primary {tokens : List Lexeme} {value : Expr} (h : IsPrimary tokens value) :
    IsOperand tokens value
  /-- An expression in parentheses. -/
  | group {i j : Nat} {tokens : List Lexeme} {value : Expr} (h : IsExpr tokens value) :
    IsOperand (⟨.mark '(', i⟩ :: (tokens ++ [⟨.mark ')', j⟩])) value

/-- An atom, or a member, a call or an element of a target. -/
inductive IsPrimary : List Lexeme → Expr → Prop
  /-- An atom alone. -/
  | atom {tokens : List Lexeme} {value : Expr} (h : IsAtom tokens value) : IsPrimary tokens value
  /-- A target, a point and a name. -/
  | member {i j : Nat} {tokens : List Lexeme} {target : Expr} {part : Text}
      (h : IsPrimary tokens target) :
    IsPrimary (tokens ++ [⟨.mark '.', i⟩, ⟨.name part, j⟩]) (.member target part)
  /-- A target and arguments in parentheses. -/
  | invoke {i : Nat} {tokens tail : List Lexeme} {target : Expr} {arguments : List Expr}
      (h : IsPrimary tokens target) (harguments : AreClosed tail arguments) :
    IsPrimary (tokens ++ ⟨.mark '(', i⟩ :: tail) (.invoke target arguments)
  /-- A target and arguments in brackets. -/
  | index {i j : Nat} {tokens inner : List Lexeme} {target : Expr} {arguments : List Expr}
      (h : IsPrimary tokens target) (harguments : AreArguments inner arguments) :
    IsPrimary (tokens ++ ⟨.mark '[', i⟩ :: (inner ++ [⟨.mark ']', j⟩])) (.index target arguments)

/-- What an access may start from. -/
inductive IsAtom : List Lexeme → Expr → Prop
  /-- A name. -/
  | name (text : Text) (i : Nat) : IsAtom [⟨.name text, i⟩] (.name text)
  /-- A regular literal. -/
  | string (source : Text) (i : Nat) : IsAtom [⟨.string source, i⟩] (.literal ⟨source, false⟩ i)
  /-- A verbatim literal. -/
  | verbatim (source : Text) (i : Nat) :
    IsAtom [⟨.verbatim source, i⟩] (.literal ⟨source, true⟩ i)
  /-- An interpolated string. -/
  | interpolated (i : Nat) : IsAtom [⟨.interpolated, i⟩] .interpolated
  /-- A character. -/
  | char (i : Nat) : IsAtom [⟨.char, i⟩] .char
  /-- A number. -/
  | number (isReal : Bool) (i : Nat) : IsAtom [⟨.number isReal, i⟩] (.number isReal)
  /-- A truth value. -/
  | bool (value : Bool) (i : Nat) : IsAtom [⟨.bool value, i⟩] (.bool value)
  /-- The word `null`. -/
  | null (i : Nat) : IsAtom [⟨.null, i⟩] .null
  /-- The word `new`, the name of a type and arguments in parentheses. -/
  | create {i j k : Nat} {first : Text} {names tail : List Lexeme} {others : List Text}
      {arguments : List Expr} (hnames : AreParts names others)
      (harguments : AreClosed tail arguments) :
    IsAtom (⟨.new, i⟩ :: ⟨.name first, j⟩ :: (names ++ ⟨.mark '(', k⟩ :: tail))
      (.create (first :: others) arguments)

/-- Arguments, perhaps none, and a closing parenthesis. -/
inductive AreClosed : List Lexeme → List Expr → Prop
  /-- There is no argument. -/
  | none (i : Nat) : AreClosed [⟨.mark ')', i⟩] []
  /-- There are arguments. -/
  | some {i : Nat} {tokens : List Lexeme} {arguments : List Expr}
      (h : AreArguments tokens arguments) : AreClosed (tokens ++ [⟨.mark ')', i⟩]) arguments

/-- Arguments with commas between them. -/
inductive AreArguments : List Lexeme → List Expr → Prop
  /-- The last argument. -/
  | last {tokens : List Lexeme} {value : Expr} (h : IsArgument tokens value) :
    AreArguments tokens [value]
  /-- An argument, a comma and the other arguments. -/
  | cons {i : Nat} {front back : List Lexeme} {first : Expr} {others : List Expr}
      (hfirst : IsArgument front first) (hrest : AreArguments back others) :
    AreArguments (front ++ ⟨.mark ',', i⟩ :: back) (first :: others)

end

/-! ### What is derived is read -/

/-- None of some marks comes next. -/
def Stops (marks : List Char) (rest : List Lexeme) : Prop :=
  ∀ c ∈ marks, afterMark? c rest = none

/-- Marks that go on with an access. -/
def accessMarks : List Char :=
  ['.', '(', '[']

/-- Marks that go on with an expression. -/
def exprMarks : List Char :=
  '+' :: accessMarks

/-- Marks that go on with an argument. -/
def argumentMarks : List Char :=
  ':' :: exprMarks

/-- Marks that go on with a list of arguments. -/
def listMarks : List Char :=
  ',' :: argumentMarks

section

variable {fuel : Nat} {tokens rest : List Lexeme} {marks : List Char}

/-- What stops more marks stops fewer. -/
theorem Stops.tail {c : Char} (h : Stops (c :: marks) rest) : Stops marks rest :=
  fun d hd => h d (List.mem_cons_of_mem c hd)

/-- The end stops everything. -/
theorem stops_nil (marks : List Char) : Stops marks [] :=
  fun _ _ => rfl

/-- Another mark stops. -/
theorem stops_mark {c : CodePoint} (h : c ∉ marks.map CodePoint.ofChar) (i : Nat)
    (rest : List Lexeme) : Stops marks (⟨.mark c, i⟩ :: rest) := by
  intro d hd
  refine if_neg ?_
  rintro rfl
  exact h (List.mem_map_of_mem hd)

/-- A mark that stops is another one. -/
theorem Stops.ne_mark {c : CodePoint} {i : Nat} (h : Stops marks (⟨.mark c, i⟩ :: rest)) {d : Char}
    (hd : d ∈ marks) : c ≠ CodePoint.ofChar d := by
  rintro rfl
  cases (afterMark?_mark d i rest).symm.trans (h d hd)

/-- Nothing is accessed where no mark goes on with it. -/
theorem readSuffixes?_of_stops (h : Stops accessMarks rest) (target : Expr) :
    readSuffixes? (fuel + 1) target rest = some (target, rest) := by
  unfold readSuffixes?
  split
  · next c i more =>
    rw [if_neg (h.ne_mark (by decide)), if_neg (h.ne_mark (by decide)),
      if_neg (h.ne_mark (by decide))]
  · rfl

/-- Arguments in parentheses are read on from the target. -/
theorem readSuffixes?_invoke {arguments : List Expr}
    (h : readArguments? fuel tokens = some (arguments, rest)) (target : Expr) (i : Nat) :
    readSuffixes? (fuel + 1) target (⟨.mark '(', i⟩ :: tokens) =
      readSuffixes? fuel (.invoke target arguments) rest := by
  have hopen : readSuffixes? (fuel + 1) target (⟨.mark '(', i⟩ :: tokens) =
      (readArguments? fuel tokens).bind fun read =>
        readSuffixes? fuel (.invoke target read.1) read.2 := rfl
  rw [hopen, h, Option.bind_some]

/-- Arguments in brackets are read on from the target. -/
theorem readSuffixes?_index {arguments : List Expr} {j : Nat}
    (h : readList? fuel tokens = some (arguments, ⟨.mark ']', j⟩ :: rest)) (target : Expr)
    (i : Nat) : readSuffixes? (fuel + 1) target (⟨.mark '[', i⟩ :: tokens) =
      readSuffixes? fuel (.index target arguments) rest := by
  have hopen : readSuffixes? (fuel + 1) target (⟨.mark '[', i⟩ :: tokens) =
      (readList? fuel tokens).bind fun read => (afterMark? ']' read.2).bind fun more =>
        readSuffixes? fuel (.index target read.1) more := rfl
  rw [hopen, h, Option.bind_some, afterMark?_mark, Option.bind_some]

/-- Nothing is added where no plus sign comes next. -/
theorem readTerms?_of_stops (h : Stops exprMarks rest) :
    readTerms? (fuel + 1) rest = some ([], rest) := by
  rw [readTerms?, h '+' List.mem_cons_self]

/-- No mark is an atom. -/
theorem readAtom?_mark (c : CodePoint) (i : Nat) (rest : List Lexeme) :
    readAtom? fuel (⟨.mark c, i⟩ :: rest) = none := by
  cases fuel with
  | zero => rfl
  | succ fuel =>
    unfold readAtom?
    rfl

/-- An atom does not start with a mark. -/
theorem afterMark?_of_readAtom? {value : Expr} (h : readAtom? fuel tokens = some (value, rest))
    (c : Char) : afterMark? c tokens = none := by
  unfold afterMark?
  split
  · rw [readAtom?_mark] at h
    cases h
  · rfl

/-- A closing parenthesis starts no list of arguments. -/
theorem readList?_close (i : Nat) (rest : List Lexeme) :
    readList? fuel (⟨.mark ')', i⟩ :: rest) = none := by
  have hoperand : ∀ fuel, readOperand? fuel (⟨.mark ')', i⟩ :: rest) = none := by
    intro fuel
    cases fuel with
    | zero => rfl
    | succ fuel =>
      have hopen : afterMark? '(' (⟨.mark ')', i⟩ :: rest) = none := rfl
      rw [readOperand?, hopen]
      dsimp only
      rw [readAtom?_mark]
      rfl
  have hexpr : ∀ fuel, readExpr? fuel (⟨.mark ')', i⟩ :: rest) = none := by
    intro fuel
    cases fuel with
    | zero => rfl
    | succ fuel =>
      rw [readExpr?, hoperand]
      rfl
  have hargument : ∀ fuel, readArgument? fuel (⟨.mark ')', i⟩ :: rest) = none := by
    intro fuel
    cases fuel with
    | zero => rfl
    | succ fuel =>
      have hname : ∀ name, (Token.mark ')') ≠ .name name := fun _ => Token.noConfusion
      exact (readArgument?_of_ne_name hname fuel rest).trans (hexpr fuel)
  cases fuel with
  | zero => rfl
  | succ fuel =>
    rw [readList?, hargument]
    rfl

/-- A list of arguments does not start with a closing parenthesis. -/
theorem afterMark?_of_readList? {values : List Expr}
    (h : readList? fuel tokens = some (values, rest)) : afterMark? ')' tokens = none := by
  unfold afterMark?
  split
  · split
    · next hc =>
      rw [hc, readList?_close] at h
      cases h
    · rfl
  · rfl

/-- A name in front of a colon is an expression by itself. -/
theorem rest_of_readExpr?_name {label : Text} {i j : Nat} {value : Expr}
    (h : readExpr? fuel (⟨.name label, i⟩ :: ⟨.mark ':', j⟩ :: tokens) = some (value, rest)) :
    rest = ⟨.mark ':', j⟩ :: tokens := by
  match fuel with
  | 0 | 1 | 2 => cases h
  | fuel + 3 =>
    have hstops : Stops exprMarks (⟨.mark ':', j⟩ :: tokens) := stops_mark (by decide) j tokens
    have hatom : readAtom? (fuel + 1) (⟨.name label, i⟩ :: ⟨.mark ':', j⟩ :: tokens) =
        some (.name label, ⟨.mark ':', j⟩ :: tokens) := by
      rw [readAtom?]
    have hoperand : readOperand? (fuel + 2) (⟨.name label, i⟩ :: ⟨.mark ':', j⟩ :: tokens) =
        some (.name label, ⟨.mark ':', j⟩ :: tokens) := by
      rw [readOperand?, afterMark?_of_readAtom? hatom]
      dsimp only
      rw [hatom]
      exact (readSuffixes?_of_stops hstops.tail _ : readSuffixes? (fuel + 1) _ _ = _)
    rw [readExpr?, hoperand] at h
    dsimp only [Option.bind_eq_bind, Option.bind_some] at h
    rw [readTerms?_of_stops hstops] at h
    cases h
    rfl

/-- An expression is an argument, unless a colon makes it a label. -/
theorem readArgument?_of_readExpr? {value : Expr}
    (h : readExpr? fuel tokens = some (value, rest)) (hrest : Stops argumentMarks rest) :
    readArgument? (fuel + 1) tokens = some (value, rest) := by
  unfold readArgument?
  split
  · next label i c j more =>
    split
    · next hc =>
      rw [hc] at h
      rw [rest_of_readExpr?_name h] at hrest
      exact absurd rfl (hrest.ne_mark List.mem_cons_self)
    · exact h
  · exact h

/-- An operand and the terms behind it make an expression. -/
theorem readExpr?_of_readOperand? {first : Expr} {more : List Lexeme} {others : List Expr}
    (hfirst : readOperand? fuel tokens = some (first, more))
    (hterms : readTerms? fuel more = some (others, rest)) :
    readExpr? (fuel + 1) tokens = some (ofTerms first others, rest) := by
  rw [readExpr?, hfirst]
  dsimp only [Option.bind_eq_bind, Option.bind_some]
  rw [hterms]
  rfl

/-- The names of a dotted name are read up to a token that is no point. -/
theorem AreParts.dottedNames_append {parts : List Text} (h : AreParts tokens parts)
    (hrest : Stops ['.'] rest) : dottedNames (tokens ++ rest) = (parts, rest) := by
  induction h with
  | nil =>
    rw [List.nil_append]
    unfold dottedNames
    split
    · next c i part j more =>
      rw [if_neg (hrest.ne_mark List.mem_cons_self)]
    · rfl
  | @cons i j part tokens parts _ ih =>
    rw [List.cons_append, List.cons_append, dottedNames, if_pos rfl, ih]

/-- Terms start with a plus sign, so no access goes on in front of them. -/
theorem AreTerms.stops {terms : List Expr} (h : AreTerms tokens terms)
    (hrest : Stops accessMarks rest) : Stops accessMarks (tokens ++ rest) := by
  cases h with
  | nil => exact hrest
  | cons => exact stops_mark (by decide) _ _

end

/-- Whatever stands behind a target, the reading of its atom and of what is accessed in it comes
down to reading on from the target. -/
def ReadsTarget (tokens : List Lexeme) (target : Expr) : Prop :=
  ∀ rest : List Lexeme, ∃ atom behind count, count < tokens.length ∧
    (∀ {fuel : Nat}, 6 * tokens.length ≤ fuel →
      readAtom? fuel (tokens ++ rest) = some (atom, behind)) ∧
    ∀ {fuel : Nat}, 6 * tokens.length ≤ fuel + count →
      readSuffixes? (fuel + count) atom behind = readSuffixes? fuel target rest

/-- One more access is read on from the target. -/
theorem ReadsTarget.access {tokens suffix : List Lexeme} {target value : Expr}
    (h : ReadsTarget tokens target)
    (hstep : ∀ {fuel : Nat} (rest : List Lexeme), 6 * suffix.length ≤ fuel →
      readSuffixes? (fuel + 1) target (suffix ++ rest) = readSuffixes? fuel value rest)
    (hsuffix : suffix ≠ []) : ReadsTarget (tokens ++ suffix) value := by
  intro rest
  obtain ⟨atom, behind, count, hcount, hatom, hread⟩ := h (suffix ++ rest)
  have hlength := List.length_pos_iff.mpr hsuffix
  rw [List.length_append]
  refine ⟨atom, behind, count + 1, by omega, fun hfuel => ?_, fun {fuel} hfuel => ?_⟩
  · rw [List.append_assoc]
    exact hatom (by omega)
  · have hnext : readSuffixes? (fuel + 1 + count) atom behind =
        readSuffixes? (fuel + 1) target (suffix ++ rest) := hread (by omega)
    rw [Nat.add_right_comm] at hnext
    exact hnext.trans (hstep rest (by omega))

/-- An atom has a token. -/
theorem IsAtom.length_pos {tokens : List Lexeme} {value : Expr} (h : IsAtom tokens value) :
    0 < tokens.length := by
  cases h <;> exact Nat.succ_pos _

-- The induction is on the derivation. Between two tokens a reading passes through at most six
-- readers, so six levels of fuel for each token are enough, and the summand tells the place of
-- the reader among them. A derivation of a target goes from right to left but its reading from
-- left to right, so what is read behind a target is left open.
mutual

/-- An argument is read. -/
theorem IsArgument.read {tokens : List Lexeme} {value : Expr} :
    IsArgument tokens value → ∀ {fuel : Nat} {rest : List Lexeme},
      6 * tokens.length + 3 ≤ fuel → Stops argumentMarks rest →
        readArgument? fuel (tokens ++ rest) = some (value, rest)
  | .labelled h, fuel, rest, hfuel, hrest => by
    simp only [List.length_cons] at hfuel
    obtain ⟨more, rfl⟩ : ∃ more, fuel = more + 1 := Nat.exists_eq_add_of_le' (by omega)
    have hread := h.read (by omega : _ ≤ more) hrest.tail
    exact readArgument?_label hread _ _
  | .expr h, fuel, rest, hfuel, hrest => by
    obtain ⟨more, rfl⟩ : ∃ more, fuel = more + 1 := Nat.exists_eq_add_of_le' (by omega)
    exact readArgument?_of_readExpr? (h.read (by omega) hrest.tail) hrest

/-- An expression is read. -/
theorem IsExpr.read {tokens : List Lexeme} {value : Expr} :
    IsExpr tokens value → ∀ {fuel : Nat} {rest : List Lexeme},
      6 * tokens.length + 2 ≤ fuel → Stops exprMarks rest →
        readExpr? fuel (tokens ++ rest) = some (value, rest)
  | .operand h, fuel, rest, hfuel, hrest => by
    obtain ⟨more, rfl⟩ : ∃ more, fuel = more + 2 := Nat.exists_eq_add_of_le' (by omega)
    exact readExpr?_of_readOperand? (h.read (by omega) hrest.tail) (readTerms?_of_stops hrest)
  | .sum hfirst hterms, fuel, rest, hfuel, hrest => by
    rw [List.length_append] at hfuel
    obtain ⟨more, rfl⟩ : ∃ more, fuel = more + 1 := Nat.exists_eq_add_of_le' (by omega)
    rw [List.append_assoc]
    exact readExpr?_of_readOperand? (hfirst.read (by omega) (hterms.stops hrest.tail))
      (hterms.read (by omega) hrest)

/-- Terms are read. -/
theorem AreTerms.read {tokens : List Lexeme} {terms : List Expr} :
    AreTerms tokens terms → ∀ {fuel : Nat} {rest : List Lexeme},
      6 * tokens.length + 1 ≤ fuel → Stops exprMarks rest →
        readTerms? fuel (tokens ++ rest) = some (terms, rest)
  | .nil, fuel, rest, hfuel, hrest => by
    obtain ⟨more, rfl⟩ : ∃ more, fuel = more + 1 := Nat.exists_eq_add_of_le' (by omega)
    exact readTerms?_of_stops hrest
  | .cons hfirst hterms, fuel, rest, hfuel, hrest => by
    rw [List.length_cons, List.length_append] at hfuel
    obtain ⟨more, rfl⟩ : ∃ more, fuel = more + 1 := Nat.exists_eq_add_of_le' (by omega)
    have hoperand := hfirst.read (by omega : _ ≤ more) (hterms.stops hrest.tail)
    have hothers := hterms.read (by omega : _ ≤ more) hrest
    rw [List.cons_append, List.append_assoc, readTerms?, afterMark?_mark]
    dsimp only
    rw [hoperand]
    dsimp only [Option.bind_eq_bind, Option.bind_some]
    rw [hothers]
    rfl

/-- An operand is read. -/
theorem IsOperand.read {tokens : List Lexeme} {value : Expr} :
    IsOperand tokens value → ∀ {fuel : Nat} {rest : List Lexeme},
      6 * tokens.length + 1 ≤ fuel → Stops accessMarks rest →
        readOperand? fuel (tokens ++ rest) = some (value, rest)
  | .primary h, fuel, rest, hfuel, hrest => by
    obtain ⟨atom, behind, count, hcount, hatom, hsuffixes⟩ := h.read rest
    obtain ⟨more, rfl⟩ : ∃ more, fuel = more + 1 + count + 1 :=
      ⟨fuel - count - 2, by omega⟩
    have hread := hatom (by omega : _ ≤ more + 1 + count)
    rw [readOperand?, afterMark?_of_readAtom? hread]
    dsimp only
    rw [hread]
    exact (hsuffixes (by omega)).trans (readSuffixes?_of_stops hrest _)
  | @IsOperand.group i j inner _ h, fuel, rest, hfuel, hrest => by
    rw [List.length_cons, List.length_append] at hfuel
    obtain ⟨more, rfl⟩ : ∃ more, fuel = more + 1 := Nat.exists_eq_add_of_le' (by omega)
    have hclose : Stops exprMarks (⟨.mark ')', j⟩ :: rest) := stops_mark (by decide) j rest
    have hread := h.read (by omega : _ ≤ more) hclose
    rw [List.cons_append, List.append_assoc, readOperand?, afterMark?_mark]
    dsimp only
    rw [List.singleton_append, hread]
    rfl

/-- A target is read. -/
theorem IsPrimary.read {tokens : List Lexeme} {value : Expr} :
    IsPrimary tokens value → ReadsTarget tokens value
  | .atom h => fun rest =>
    ⟨value, rest, 0, h.length_pos, fun hfuel => h.read hfuel rest, fun _ => rfl⟩
  | .member h => by
    refine h.read.access (fun {fuel} rest _ => ?_) (List.cons_ne_nil _ _)
    rw [List.cons_append, List.singleton_append, readSuffixes?, if_pos rfl]
  | @IsPrimary.invoke i tokens tail target arguments h harguments => by
    refine h.read.access (fun {fuel} rest hfuel => ?_) (List.cons_ne_nil _ _)
    rw [List.length_cons] at hfuel
    exact readSuffixes?_invoke (harguments.read (by omega) rest) target i
  | @IsPrimary.index i j tokens inner target arguments h harguments => by
    refine h.read.access (fun {fuel} rest hfuel => ?_) (List.cons_ne_nil _ _)
    rw [List.length_cons, List.length_append] at hfuel
    have hclose : Stops listMarks (⟨.mark ']', j⟩ :: rest) := stops_mark (by decide) j rest
    rw [List.cons_append, List.append_assoc]
    exact readSuffixes?_index (harguments.read (by omega) hclose) target i

/-- An atom is read. -/
theorem IsAtom.read {tokens : List Lexeme} {value : Expr} :
    IsAtom tokens value → ∀ {fuel : Nat}, 6 * tokens.length ≤ fuel → ∀ rest : List Lexeme,
      readAtom? fuel (tokens ++ rest) = some (value, rest)
  | .name _ _, fuel, hfuel, rest | .string _ _, fuel, hfuel, rest
  | .verbatim _ _, fuel, hfuel, rest | .interpolated _, fuel, hfuel, rest
  | .char _, fuel, hfuel, rest | .number _ _, fuel, hfuel, rest
  | .bool _ _, fuel, hfuel, rest | .null _, fuel, hfuel, rest => by
    rw [List.length_singleton] at hfuel
    obtain ⟨more, rfl⟩ : ∃ more, fuel = more + 1 := Nat.exists_eq_add_of_le' (by omega)
    rw [List.singleton_append, readAtom?]
  | @IsAtom.create i j k first names tail others arguments hnames harguments, fuel, hfuel,
      rest => by
    simp only [List.length_cons, List.length_append] at hfuel
    obtain ⟨more, rfl⟩ : ∃ more, fuel = more + 1 := Nat.exists_eq_add_of_le' (by omega)
    have hopen : Stops ['.'] (⟨.mark '(', k⟩ :: (tail ++ rest)) := stops_mark (by decide) k _
    have hread := harguments.read (by omega : _ ≤ more) rest
    rw [List.cons_append, List.cons_append, List.append_assoc, List.cons_append, readAtom?,
      hnames.dottedNames_append hopen]
    dsimp only
    rw [afterMark?_mark]
    dsimp only [Option.bind_eq_bind, Option.bind_some]
    rw [hread]
    rfl

/-- Arguments in parentheses are read. -/
theorem AreClosed.read {tokens : List Lexeme} {arguments : List Expr} :
    AreClosed tokens arguments → ∀ {fuel : Nat}, 6 * tokens.length + 4 ≤ fuel →
      ∀ rest : List Lexeme, readArguments? fuel (tokens ++ rest) = some (arguments, rest)
  | .none i, fuel, hfuel, rest => by
    obtain ⟨more, rfl⟩ : ∃ more, fuel = more + 1 := Nat.exists_eq_add_of_le' (by omega)
    rw [List.singleton_append, readArguments?, afterMark?_mark]
  | @AreClosed.some i tokens arguments h, fuel, hfuel, rest => by
    rw [List.length_append, List.length_singleton] at hfuel
    obtain ⟨more, rfl⟩ : ∃ more, fuel = more + 1 := Nat.exists_eq_add_of_le' (by omega)
    have hclose : Stops listMarks (⟨.mark ')', i⟩ :: rest) := stops_mark (by decide) i rest
    have hread := h.read (by omega : _ ≤ more) hclose
    rw [List.append_assoc, List.singleton_append, readArguments?, afterMark?_of_readList? hread]
    dsimp only
    rw [hread]
    rfl

/-- A list of arguments is read. -/
theorem AreArguments.read {tokens : List Lexeme} {arguments : List Expr} :
    AreArguments tokens arguments → ∀ {fuel : Nat} {rest : List Lexeme},
      6 * tokens.length + 4 ≤ fuel → Stops listMarks rest →
        readList? fuel (tokens ++ rest) = some (arguments, rest)
  | .last h, fuel, rest, hfuel, hrest => by
    obtain ⟨more, rfl⟩ : ∃ more, fuel = more + 1 := Nat.exists_eq_add_of_le' (by omega)
    rw [readList?, h.read (by omega) hrest.tail]
    dsimp only [Option.bind_eq_bind, Option.bind_some]
    rw [hrest ',' List.mem_cons_self]
    rfl
  | @AreArguments.cons i front back first others hfirst hothers, fuel, rest, hfuel, hrest => by
    rw [List.length_append, List.length_cons] at hfuel
    obtain ⟨more, rfl⟩ : ∃ more, fuel = more + 1 := Nat.exists_eq_add_of_le' (by omega)
    have hcomma : Stops argumentMarks (⟨.mark ',', i⟩ :: (back ++ rest)) :=
      stops_mark (by decide) i _
    have hread := hfirst.read (by omega : _ ≤ more) hcomma
    rw [List.append_assoc, List.cons_append, readList?, hread]
    dsimp only [Option.bind_eq_bind, Option.bind_some]
    rw [afterMark?_mark]
    dsimp only
    rw [hothers.read (by omega) hrest]
    rfl

end

/-! ### What is read is derived -/

/-- Everything that a reader takes off the front of the tokens is derived. -/
def Sound {α : Type} (derives : List Lexeme → α → Prop)
    (read : List Lexeme → Option (α × List Lexeme)) : Prop :=
  ∀ {tokens rest : List Lexeme} {value : α}, read tokens = some (value, rest) →
    ∃ front, tokens = front ++ rest ∧ derives front value

/-- All readers are sound at some fuel. A target that is derived from the tokens before stays one
while more is accessed in it. -/
structure ReadersSound (fuel : Nat) : Prop where
  /-- Arguments. -/
  argument : Sound IsArgument (readArgument? fuel)
  /-- Expressions. -/
  expr : Sound IsExpr (readExpr? fuel)
  /-- Terms. -/
  terms : Sound AreTerms (readTerms? fuel)
  /-- Operands. -/
  operand : Sound IsOperand (readOperand? fuel)
  /-- What is accessed in a target. -/
  suffixes : ∀ {before : List Lexeme} {target : Expr}, IsPrimary before target →
    Sound (fun front value => IsPrimary (before ++ front) value) (readSuffixes? fuel target)
  /-- Atoms. -/
  atom : Sound IsAtom (readAtom? fuel)
  /-- Arguments in parentheses. -/
  arguments : Sound AreClosed (readArguments? fuel)
  /-- Lists of arguments. -/
  list : Sound AreArguments (readList? fuel)

/-- A mark that is passed over comes first. -/
theorem eq_cons_of_afterMark? {c : Char} {tokens rest : List Lexeme}
    (h : afterMark? c tokens = some rest) : ∃ i, tokens = ⟨.mark c, i⟩ :: rest := by
  unfold afterMark? at h
  split at h
  · split at h
    · next i more hc =>
      cases h
      exact ⟨i, by rw [hc]⟩
    · cases h
  · cases h

/-- The names that are read off a dotted name are derived. -/
theorem exists_areParts (tokens : List Lexeme) :
    ∃ front, tokens = front ++ (dottedNames tokens).2 ∧ AreParts front (dottedNames tokens).1 := by
  fun_induction dottedNames tokens with
  | case1 i part j rest more ih =>
    obtain ⟨front, hfront, hparts⟩ := ih
    refine ⟨⟨.mark '.', i⟩ :: ⟨.name part, j⟩ :: front, ?_, .cons hparts⟩
    rw [List.cons_append, List.cons_append, ← hfront]
  | case2 => exact ⟨[], rfl, .nil⟩
  | case3 => exact ⟨[], rfl, .nil⟩

namespace ReadersSound

variable {fuel : Nat}

/-- The readers are sound without fuel. -/
theorem zero : ReadersSound 0 where
  argument := nofun
  expr := nofun
  terms := nofun
  operand := nofun
  suffixes := fun _ => nofun
  atom := nofun
  arguments := nofun
  list := nofun

/-- An argument is derived from its expression. -/
theorem argument_succ (h : ReadersSound fuel) : Sound IsArgument (readArgument? (fuel + 1)) := by
  intro tokens rest value hread
  unfold readArgument? at hread
  split at hread
  · next label i c j more =>
    split at hread
    · next hc =>
      obtain ⟨⟨inner, left⟩, hinner, hread⟩ := Option.bind_eq_some_iff.mp hread
      cases hread
      obtain ⟨front, rfl, hexpr⟩ := h.expr hinner
      exact ⟨_ :: _ :: front, rfl, by rw [hc]; exact .labelled hexpr⟩
    · obtain ⟨front, hfront, hexpr⟩ := h.expr hread
      exact ⟨front, hfront, .expr hexpr⟩
  · obtain ⟨front, hfront, hexpr⟩ := h.expr hread
    exact ⟨front, hfront, .expr hexpr⟩

/-- An expression is derived from its operands. -/
theorem expr_succ (h : ReadersSound fuel) : Sound IsExpr (readExpr? (fuel + 1)) := by
  intro tokens rest value hread
  rw [readExpr?] at hread
  obtain ⟨⟨first, more⟩, hfirst, hread⟩ := Option.bind_eq_some_iff.mp hread
  obtain ⟨⟨others, left⟩, hothers, hread⟩ := Option.bind_eq_some_iff.mp hread
  cases hread
  obtain ⟨front, rfl, hoperand⟩ := h.operand hfirst
  obtain ⟨back, rfl, hterms⟩ := h.terms hothers
  cases others with
  | nil =>
    cases hterms
    exact ⟨front, rfl, .operand hoperand⟩
  | cons second others => exact ⟨front ++ back, (List.append_assoc ..).symm, .sum hoperand hterms⟩

/-- Terms are derived one by one. -/
theorem terms_succ (h : ReadersSound fuel) : Sound AreTerms (readTerms? (fuel + 1)) := by
  intro tokens rest value hread
  rw [readTerms?] at hread
  split at hread
  · cases hread
    exact ⟨[], rfl, .nil⟩
  · next behind hplus =>
    obtain ⟨i, rfl⟩ := eq_cons_of_afterMark? hplus
    obtain ⟨⟨first, more⟩, hfirst, hread⟩ := Option.bind_eq_some_iff.mp hread
    obtain ⟨⟨others, left⟩, hothers, hread⟩ := Option.bind_eq_some_iff.mp hread
    cases hread
    obtain ⟨front, rfl, hoperand⟩ := h.operand hfirst
    obtain ⟨back, rfl, hterms⟩ := h.terms hothers
    refine ⟨⟨.mark '+', i⟩ :: (front ++ back), ?_, .cons hoperand hterms⟩
    rw [List.cons_append, List.append_assoc]

/-- An operand is derived from what stands in its parentheses or from its target. -/
theorem operand_succ (h : ReadersSound fuel) : Sound IsOperand (readOperand? (fuel + 1)) := by
  intro tokens rest value hread
  rw [readOperand?] at hread
  split at hread
  · next behind hopen =>
    obtain ⟨i, rfl⟩ := eq_cons_of_afterMark? hopen
    obtain ⟨⟨inner, more⟩, hinner, hread⟩ := Option.bind_eq_some_iff.mp hread
    obtain ⟨left, hclose, hread⟩ := Option.bind_eq_some_iff.mp hread
    cases hread
    obtain ⟨front, rfl, hexpr⟩ := h.expr hinner
    obtain ⟨j, rfl⟩ := eq_cons_of_afterMark? hclose
    refine ⟨⟨.mark '(', i⟩ :: (front ++ [⟨.mark ')', j⟩]), ?_, .group hexpr⟩
    rw [List.cons_append, List.append_assoc, List.singleton_append]
  · obtain ⟨⟨atom, more⟩, hatom, hsuffixes⟩ := Option.bind_eq_some_iff.mp hread
    obtain ⟨front, rfl, hfirst⟩ := h.atom hatom
    obtain ⟨back, rfl, hprimary⟩ := h.suffixes (.atom hfirst) hsuffixes
    exact ⟨front ++ back, (List.append_assoc ..).symm, .primary hprimary⟩

/-- What is accessed in a derived target is derived. -/
theorem suffixes_succ (h : ReadersSound fuel) {before : List Lexeme} {target : Expr}
    (hbefore : IsPrimary before target) :
    Sound (fun front value => IsPrimary (before ++ front) value)
      (readSuffixes? (fuel + 1) target) := by
  intro tokens rest value hread
  have hend : IsPrimary (before ++ []) target := by rwa [List.append_nil]
  unfold readSuffixes? at hread
  split at hread
  · next c i behind =>
    split at hread
    · next hpoint =>
      subst hpoint
      split at hread
      · next part j more =>
        obtain ⟨front, rfl, hvalue⟩ := h.suffixes (.member hbefore) hread
        refine ⟨⟨.mark '.', i⟩ :: ⟨.name part, j⟩ :: front, rfl, ?_⟩
        rwa [List.append_assoc] at hvalue
      · cases hread
    · split at hread
      · next hopen =>
        subst hopen
        obtain ⟨⟨arguments, more⟩, harguments, hmore⟩ := Option.bind_eq_some_iff.mp hread
        obtain ⟨inner, rfl, hinner⟩ := h.arguments harguments
        obtain ⟨front, rfl, hvalue⟩ := h.suffixes (.invoke hbefore hinner) hmore
        refine ⟨⟨.mark '(', i⟩ :: (inner ++ front), ?_, ?_⟩
        · rw [List.cons_append, List.append_assoc]
        · rwa [List.append_assoc, List.cons_append] at hvalue
      · split at hread
        · next hopen =>
          subst hopen
          obtain ⟨⟨arguments, more⟩, harguments, hmore⟩ := Option.bind_eq_some_iff.mp hread
          obtain ⟨left, hclose, hleft⟩ := Option.bind_eq_some_iff.mp hmore
          obtain ⟨inner, rfl, hinner⟩ := h.list harguments
          obtain ⟨j, rfl⟩ := eq_cons_of_afterMark? hclose
          obtain ⟨front, rfl, hvalue⟩ := h.suffixes (.index hbefore hinner) hleft
          refine ⟨⟨.mark '[', i⟩ :: (inner ++ ⟨.mark ']', j⟩ :: front), ?_, ?_⟩
          · rw [List.cons_append, List.append_assoc, List.cons_append]
          · rwa [List.append_assoc, List.cons_append, List.append_assoc,
              List.singleton_append] at hvalue
        · cases hread
          exact ⟨[], rfl, hend⟩
  · cases hread
    exact ⟨[], rfl, hend⟩

/-- An atom is derived from its tokens. -/
theorem atom_succ (h : ReadersSound fuel) : Sound IsAtom (readAtom? (fuel + 1)) := by
  intro tokens rest value hread
  unfold readAtom? at hread
  split at hread
  case h_9 i first j behind =>
    obtain ⟨left, hopen, hmore⟩ := Option.bind_eq_some_iff.mp hread
    obtain ⟨⟨arguments, more⟩, harguments, hvalue⟩ := Option.bind_eq_some_iff.mp hmore
    cases hvalue
    obtain ⟨names, hnames, hparts⟩ := exists_areParts behind
    obtain ⟨k, hleft⟩ := eq_cons_of_afterMark? hopen
    obtain ⟨tail, rfl, htail⟩ := h.arguments harguments
    refine ⟨⟨.new, i⟩ :: ⟨.name first, j⟩ :: (names ++ ⟨.mark '(', k⟩ :: tail), ?_,
      .create hparts htail⟩
    rw [hnames, hleft, List.cons_append, List.cons_append, List.append_assoc, List.cons_append]
  case h_10 => cases hread
  all_goals
    cases hread
    exact ⟨[_], rfl, by constructor⟩

/-- Arguments in parentheses are derived from their list. -/
theorem arguments_succ (h : ReadersSound fuel) :
    Sound AreClosed (readArguments? (fuel + 1)) := by
  intro tokens rest value hread
  rw [readArguments?] at hread
  split at hread
  · next behind hclose =>
    obtain ⟨i, rfl⟩ := eq_cons_of_afterMark? hclose
    cases hread
    exact ⟨[⟨.mark ')', i⟩], rfl, .none i⟩
  · obtain ⟨⟨arguments, more⟩, hlist, hread⟩ := Option.bind_eq_some_iff.mp hread
    obtain ⟨left, hclose, hread⟩ := Option.bind_eq_some_iff.mp hread
    cases hread
    obtain ⟨front, rfl, harguments⟩ := h.list hlist
    obtain ⟨i, rfl⟩ := eq_cons_of_afterMark? hclose
    refine ⟨front ++ [⟨.mark ')', i⟩], ?_, .some harguments⟩
    rw [List.append_assoc, List.singleton_append]

/-- A list of arguments is derived one by one. -/
theorem list_succ (h : ReadersSound fuel) : Sound AreArguments (readList? (fuel + 1)) := by
  intro tokens rest value hread
  rw [readList?] at hread
  obtain ⟨⟨first, more⟩, hfirst, hmore⟩ := Option.bind_eq_some_iff.mp hread
  obtain ⟨front, rfl, hargument⟩ := h.argument hfirst
  dsimp only at hmore
  split at hmore
  · cases hmore
    exact ⟨front, rfl, .last hargument⟩
  · next behind hcomma =>
    obtain ⟨i, rfl⟩ := eq_cons_of_afterMark? hcomma
    obtain ⟨⟨others, left⟩, hothers, hvalue⟩ := Option.bind_eq_some_iff.mp hmore
    cases hvalue
    obtain ⟨back, rfl, harguments⟩ := h.list hothers
    refine ⟨front ++ ⟨.mark ',', i⟩ :: back, ?_, .cons hargument harguments⟩
    rw [List.append_assoc, List.cons_append]

end ReadersSound

/-- The readers are sound at every fuel. -/
theorem readersSound (fuel : Nat) : ReadersSound fuel := by
  induction fuel with
  | zero => exact .zero
  | succ fuel ih =>
    exact ⟨ih.argument_succ, ih.expr_succ, ih.terms_succ, ih.operand_succ, ih.suffixes_succ,
      ih.atom_succ, ih.arguments_succ, ih.list_succ⟩

/-- The text of an expression without a label. -/
def IsExprText (t : Text) : Prop :=
  ∃ tokens value, lexemes? t = some tokens ∧ IsExpr tokens value

/-- A text is read as an expression exactly when the grammar derives this expression as an
argument from its tokens. -/
theorem ofText?_eq_some_iff {t : Text} {value : Expr} :
    ofText? t = some value ↔
      ∃ tokens, lexemes? t = some tokens ∧ IsArgument tokens value := by
  constructor
  · intro h
    obtain ⟨tokens, htokens, h⟩ := Option.bind_eq_some_iff.mp h
    refine ⟨tokens, htokens, ?_⟩
    split at h
    · next found hread =>
      cases h
      obtain ⟨front, rfl, hargument⟩ := (readersSound _).argument hread
      rwa [List.append_nil]
    · cases h
  · rintro ⟨tokens, htokens, hargument⟩
    have hread := hargument.read (by omega : _ ≤ 6 * tokens.length + 6) (stops_nil _)
    rw [List.append_nil] at hread
    rw [ofText?, htokens]
    dsimp only [Option.bind_eq_bind, Option.bind_some]
    rw [hread]

end TemplateLint.Expr
