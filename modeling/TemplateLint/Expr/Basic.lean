import TemplateLint.Expr.Token
import TemplateLint.Literal.Basic

/-!
# Argument expressions

The expressions that matter for a logging call: literals and their sums, names,
member accesses, calls, and the creation of objects. Parentheses leave no trace.
Whatever has no such form is not read at all.
-/

namespace TemplateLint

/-- An argument expression. -/
inductive Expr
  /-- A name. -/
  | name (name : Text)
  /-- A string literal at an offset of the text. -/
  | literal (literal : Literal) (offset : Nat)
  /-- An interpolated string. -/
  | interpolated
  /-- A character. -/
  | char
  /-- A number. -/
  | number (isReal : Bool)
  /-- A truth value. -/
  | bool (value : Bool)
  /-- The word `null`. -/
  | null
  /-- The creation of an object of a type with a dotted name. -/
  | create (typeName : List Text) (arguments : List Expr)
  /-- A member of an object. -/
  | member (target : Expr) (name : Text)
  /-- A call. -/
  | invoke (target : Expr) (arguments : List Expr)
  /-- An element. -/
  | index (target : Expr) (arguments : List Expr)
  /-- A sum of two terms or more. -/
  | sum (terms : List Expr)
  /-- An argument with a label. -/
  | labelled (label : Text) (value : Expr)

namespace Expr

/-- The rest of the tokens after a mark that has to come next. -/
def afterMark? (c : Char) : List Lexeme → Option (List Lexeme)
  | ⟨.mark d, _⟩ :: rest => if d = c then some rest else none
  | _ => none

/-- Names after points, up to the first token that continues neither. -/
def dottedNames (tokens : List Lexeme) : List Text × List Lexeme :=
  match tokens with
  | ⟨.mark c, _⟩ :: ⟨.name part, _⟩ :: rest =>
    if c = '.' then
      let more := dottedNames rest
      (part :: more.1, more.2)
    else ([], tokens)
  | _ => ([], tokens)

mutual

/-- Read an argument: an expression that may have a label. -/
def readArgument? : (fuel : Nat) → List Lexeme → Option (Expr × List Lexeme)
  | 0, _ => none
  | fuel + 1, tokens =>
    match tokens with
    | ⟨.name label, _⟩ :: ⟨.mark c, _⟩ :: rest =>
      if c = ':' then do
        let (value, rest) ← readExpr? fuel rest
        return (.labelled label value, rest)
      else readExpr? fuel tokens
    | _ => readExpr? fuel tokens

/-- Read an operand, or the sum of several. -/
def readExpr? : (fuel : Nat) → List Lexeme → Option (Expr × List Lexeme)
  | 0, _ => none
  | fuel + 1, tokens => do
    let (first, rest) ← readOperand? fuel tokens
    let (others, rest) ← readTerms? fuel rest
    return (if others.isEmpty then first else .sum (first :: others), rest)

/-- Read the operands after plus signs. -/
def readTerms? : (fuel : Nat) → List Lexeme → Option (List Expr × List Lexeme)
  | 0, _ => none
  | fuel + 1, tokens =>
    match afterMark? '+' tokens with
    | none => some ([], tokens)
    | some rest => do
      let (term, rest) ← readOperand? fuel rest
      let (terms, rest) ← readTerms? fuel rest
      return (term :: terms, rest)

/-- Read an expression in parentheses, or an atom with what follows it. -/
def readOperand? : (fuel : Nat) → List Lexeme → Option (Expr × List Lexeme)
  | 0, _ => none
  | fuel + 1, tokens =>
    match afterMark? '(' tokens with
    | some rest => do
      let (value, rest) ← readExpr? fuel rest
      return (value, ← afterMark? ')' rest)
    | none => do
      let (atom, rest) ← readAtom? fuel tokens
      readSuffixes? fuel atom rest

/-- Read an atom. -/
def readAtom? : (fuel : Nat) → List Lexeme → Option (Expr × List Lexeme)
  | 0, _ => none
  | fuel + 1, tokens =>
    match tokens with
    | ⟨.name text, _⟩ :: rest => some (.name text, rest)
    | ⟨.string source, offset⟩ :: rest => some (.literal ⟨source, false⟩ offset, rest)
    | ⟨.verbatim source, offset⟩ :: rest => some (.literal ⟨source, true⟩ offset, rest)
    | ⟨.interpolated, _⟩ :: rest => some (.interpolated, rest)
    | ⟨.char, _⟩ :: rest => some (.char, rest)
    | ⟨.number isReal, _⟩ :: rest => some (.number isReal, rest)
    | ⟨.bool value, _⟩ :: rest => some (.bool value, rest)
    | ⟨.null, _⟩ :: rest => some (.null, rest)
    | ⟨.new, _⟩ :: ⟨.name first, _⟩ :: rest => do
      let (others, rest) := dottedNames rest
      let (arguments, rest) ← readArguments? fuel (← afterMark? '(' rest)
      return (.create (first :: others) arguments, rest)
    | _ => none

/-- Read members, calls and elements of a target. -/
def readSuffixes? : (fuel : Nat) → Expr → List Lexeme → Option (Expr × List Lexeme)
  | 0, _, _ => none
  | fuel + 1, target, tokens =>
    match tokens with
    | ⟨.mark c, _⟩ :: rest =>
      if c = '.' then
        match rest with
        | ⟨.name text, _⟩ :: rest => readSuffixes? fuel (.member target text) rest
        | _ => none
      else if c = '(' then do
        let (arguments, rest) ← readArguments? fuel rest
        readSuffixes? fuel (.invoke target arguments) rest
      else if c = '[' then do
        let (arguments, rest) ← readList? fuel rest
        readSuffixes? fuel (.index target arguments) (← afterMark? ']' rest)
      else some (target, tokens)
    | _ => some (target, tokens)

/-- Read the arguments of a call, perhaps none, and the closing parenthesis. -/
def readArguments? : (fuel : Nat) → List Lexeme → Option (List Expr × List Lexeme)
  | 0, _ => none
  | fuel + 1, tokens =>
    match afterMark? ')' tokens with
    | some rest => some ([], rest)
    | none => do
      let (arguments, rest) ← readList? fuel tokens
      return (arguments, ← afterMark? ')' rest)

/-- Read arguments between commas. -/
def readList? : (fuel : Nat) → List Lexeme → Option (List Expr × List Lexeme)
  | 0, _ => none
  | fuel + 1, tokens => do
    let (first, rest) ← readArgument? fuel tokens
    match afterMark? ',' rest with
    | none => return ([first], rest)
    | some rest =>
      let (others, rest) ← readList? fuel rest
      return (first :: others, rest)

end

/-- The argument expression that is the whole text. Every token is met by fewer than six
nested readings, which bounds the depth of the reading. -/
def ofText? (t : Text) : Option Expr := do
  let tokens ← lexemes? t
  match readArgument? (6 * tokens.length + 6) tokens with
  | some (value, []) => some value
  | _ => none

end Expr

end TemplateLint
