import TemplateLint.Source.Lexical

/-!
# Tokens of expressions

Argument expressions are cut into names, literals, numbers and marks; blanks and
comments between them are dropped. A text that cannot be cut has no tokens.
-/

namespace TemplateLint.Expr

/-- A token. -/
inductive Token
  /-- An identifier, without the `@` that may precede it. -/
  | name (text : Text)
  /-- A regular string literal. -/
  | string (source : Text)
  /-- A verbatim string literal. -/
  | verbatim (source : Text)
  /-- An interpolated string literal. -/
  | interpolated
  /-- A character literal. -/
  | char
  /-- A number, which may have a point. -/
  | number (isReal : Bool)
  /-- A truth value. -/
  | bool (value : Bool)
  /-- The word `null`. -/
  | null
  /-- The word `new`. -/
  | new
  /-- A bracket, point, comma, colon or plus sign. -/
  | mark (c : CodePoint)
  deriving DecidableEq

/-- A token and its place. -/
structure Lexeme where
  /-- The token. -/
  token : Token
  /-- Offset of its first code point. -/
  offset : Nat
  deriving DecidableEq

/-- Code points that are tokens by themselves. -/
def marks : List CodePoint :=
  [':', '+', '(', ')', '.', '[', ']', ','].map CodePoint.ofChar

/-- The token of a word that is not preceded by `@`. -/
def wordToken (word : Text) : Token :=
  if word = "true" then .bool true
  else if word = "false" then .bool false
  else if word = "null" then .null
  else if word = "new" then .new
  else .name word

/-- The run of letters, digits and underscores at the front of a text. -/
def wordRun (t : Text) : Text :=
  t.takeWhile CodePoint.isAsciiWord

/-- The number at the front of a text: digits, perhaps a point and digits, and letters.
Its length and whether it has a point. -/
def numberAt (t : Text) : Nat × Bool :=
  let whole := (t.takeWhile CodePoint.isDecimalDigit).length
  let rest := t.drop whole
  let fraction :=
    if rest.head? = some (CodePoint.ofChar '.') then
      (rest.tail.takeWhile CodePoint.isDecimalDigit).length
    else 0
  let length := if fraction = 0 then whole else whole + 1 + fraction
  (length + ((t.drop length).takeWhile CodePoint.isAsciiLetter).length, fraction ≠ 0)

/-- What stands at the front of a nonempty text: a token, or nothing for a blank or a
comment, and its length. -/
def lexemeAt? (c : CodePoint) (rest : Text) : Option (Option Token × Nat) :=
  let t := c :: rest
  if c.isBlank then some (none, 1)
  else if c = '/' then
    if rest.head? = some (CodePoint.ofChar '/') then
      some (none, 1 + (rest.takeWhile fun (d : CodePoint) => decide (d ≠ '\n')).length)
    else if rest.head? = some (CodePoint.ofChar '*') then
      (Source.blockEnd? rest.tail).map fun length => (none, length + 2)
    else none
  else if c = '"' then
    (Source.regularEnd? c rest).map fun length => (some (.string (t.take (length + 1))), length + 1)
  else if c = '\'' then
    match Source.regularEnd? c rest with
    | some length => if length = 1 then none else some (some .char, length + 1)
    | none => none
  else if Text.startsWith t "@\"" then
    (Source.verbatimEnd? (t.drop 2)).map fun length =>
      (some (.verbatim (t.take (length + 2))), length + 2)
  else if Text.startsWith t "$@\"" ∨ Text.startsWith t "@$\"" then
    (Source.verbatimEnd? (t.drop 3)).map fun length => (some .interpolated, length + 3)
  else if Text.startsWith t "$\"" then
    (Source.regularEnd? '"' (t.drop 2)).map fun length => (some .interpolated, length + 2)
  else if c.isDecimalDigit then
    let found := numberAt t
    some (some (.number found.2), found.1)
  else if c = '@' then
    if rest.head?.any CodePoint.isIdentifierStart then
      some (some (.name (wordRun rest)), 1 + (wordRun rest).length)
    else none
  else if c.isIdentifierStart then some (some (wordToken (wordRun t)), (wordRun t).length)
  else if c ∈ marks then some (some (.mark c), 1)
  else none

/-- The tokens of a text that starts at `offset`; `skip` code points belong to a token
already read. -/
def lexemesFrom? (offset skip : Nat) : Text → Option (List Lexeme)
  | [] => some []
  | c :: rest =>
    match skip with
    | skip + 1 => lexemesFrom? (offset + 1) skip rest
    | 0 =>
      match lexemeAt? c rest with
      | none => none
      | some (token, length) =>
        (lexemesFrom? (offset + 1) (length - 1) rest).map fun later =>
          (token.map fun token => ⟨token, offset⟩).toList ++ later

/-- The tokens of a text. -/
def lexemes? (t : Text) : Option (List Lexeme) :=
  lexemesFrom? 0 0 t

end TemplateLint.Expr
