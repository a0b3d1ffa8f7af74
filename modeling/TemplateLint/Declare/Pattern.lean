import TemplateLint.Source.Occurrence

/-!
# Patterns of declarations

How declarations look in masked source: typed variables and parameters, caught
exceptions, variables without a type, constants, and the heads of methods. Names
are given without the `@` that may precede them.
-/

namespace TemplateLint.Declare

open Source

/-- Words that come before an identifier without being its type. -/
def keywords : List Text :=
  ["abstract", "as", "async", "await", "base", "break", "case", "catch", "checked", "class",
    "const", "continue", "default", "delegate", "do", "else", "enum", "event", "explicit",
    "extern", "finally", "fixed", "for", "foreach", "goto", "if", "implicit", "in", "interface",
    "internal", "is", "lock", "namespace", "new", "operator", "out", "override", "params",
    "partial", "private", "protected", "public", "readonly", "ref", "return", "sealed", "sizeof",
    "stackalloc", "static", "struct", "switch", "this", "throw", "try", "typeof", "unchecked",
    "unsafe", "using", "virtual", "volatile", "when", "where", "while", "yield"].map
    Text.ofString

/-- A name and the type that its declaration gives it. -/
structure Typed where
  /-- The type as written. -/
  typeName : Text
  /-- The name. -/
  name : Text
  /-- Offset of the name. -/
  nameAt : Nat
  deriving DecidableEq

/-- Whether a word may start after a code point. -/
def startsWord (before : Option CodePoint) : Bool :=
  !before.any CodePoint.isWord

/-- Whether a type may start after a code point: not inside a word or a dotted name. -/
def startsType (before : Option CodePoint) : Bool :=
  !before.any fun (c : CodePoint) => c.isWord || c = '.' || c = '@'

/-- Read an identifier. -/
def identifier? (cursor : Cursor) : Option (Text × Cursor) :=
  if cursor.rest.head?.any CodePoint.isIdentifierStart then
    some (cursor.run CodePoint.isWord, cursor.skip CodePoint.isWord)
  else none

/-- An identifier takes at least one code point. -/
theorem length_of_identifier? {cursor next : Cursor} {name : Text}
    (h : identifier? cursor = some (name, next)) : next.rest.length < cursor.rest.length := by
  unfold identifier? at h
  split at h
  · next hstart =>
    cases h
    cases hrest : cursor.rest with
    | nil => simp [hrest] at hstart
    | cons c rest =>
      have hc : c.isIdentifierStart = true := by simpa [hrest] using hstart
      have hw : c.isWord = true := by
        unfold CodePoint.isWord
        have hlt : c.val < 0x80 := by
          simp only [CodePoint.isIdentifierStart, CodePoint.isAsciiLetter, CodePoint.isAsciiLower,
            CodePoint.isAsciiUpper, Bool.or_eq_true, Bool.and_eq_true, decide_eq_true_eq] at hc
          rcases hc with (hc | hc) | hc
          · omega
          · omega
          · rw [hc]
            decide
        rw [if_pos hlt]
        simp only [CodePoint.isIdentifierStart, Bool.or_eq_true, decide_eq_true_eq] at hc
        simp only [CodePoint.isAsciiWord, Bool.or_eq_true, decide_eq_true_eq]
        rcases hc with hc | hc
        · exact Or.inl (Or.inl hc)
        · exact Or.inr hc
      simp only [Cursor.skip, Cursor.run, Cursor.advance, hrest, hw, List.takeWhile_cons_of_pos,
        List.length_cons, List.drop_succ_cons, List.length_drop]
      omega
  · cases h

/-- Step over an `@`, if one comes next. -/
def skipEscape (cursor : Cursor) : Cursor :=
  if cursor.isAt '@' then cursor.advance 1 else cursor

/-- Read an identifier that an `@` may precede. -/
def escapedIdentifier? (cursor : Cursor) : Option (Text × Cursor) :=
  identifier? (skipEscape cursor)

/-- Letters, digits, underscores and points. -/
def isDotted (c : CodePoint) : Bool :=
  c.isWord || c = '.'

/-- Read a name with points in it. -/
def dottedName? (cursor : Cursor) : Option (Text × Cursor) :=
  if cursor.rest.head?.any CodePoint.isIdentifierStart then
    some (cursor.run isDotted, cursor.skip isDotted)
  else none

/-- What may not stand between the angle brackets of a type. -/
def typeStops : List CodePoint :=
  ['<', '>', ';', '(', ')', '{', '}'].map CodePoint.ofChar

/-- Step over angle brackets that hold none of `stops`, which contains the brackets. -/
def angles? (stops : List CodePoint) (cursor : Cursor) : Option Cursor := do
  let inner ← cursor.expect? '<'
  (inner.skip fun c => !stops.contains c).expect? '>'

/-- Step over angle brackets if they come next. -/
def skipAngles (stops : List CodePoint) (cursor : Cursor) : Cursor :=
  (angles? stops cursor).getD cursor

/-- Length of the array brackets at the front of a text: pairs with only blanks inside.
`reached` code points precede the text, `complete` of which form whole pairs, and `inside`
tells whether a pair is open. -/
def arrayLength (reached complete : Nat) (inside : Bool) : Text → Nat
  | [] => complete
  | c :: rest =>
    if inside then
      if c = ']' then arrayLength (reached + 1) (reached + 1) false rest
      else if c.isBlank then arrayLength (reached + 1) complete true rest
      else complete
    else if c = '[' then arrayLength (reached + 1) complete true rest
    else complete

/-- Read a type: a dotted name, perhaps with type arguments, array brackets and a question
mark. -/
def typeName? (cursor : Cursor) : Option (Text × Cursor) := do
  let (_, named) ← dottedName? cursor
  let generic := skipAngles typeStops named
  let array := generic.advance (arrayLength 0 0 false generic.rest)
  let next := if array.isAt '?' then array.advance 1 else array
  return (cursor.rest.take (next.offset - cursor.offset), next)

/-- Read a type and, after blanks, an identifier. -/
def typedName? (cursor : Cursor) : Option (Typed × Cursor) := do
  let (typeName, next) ← typeName? cursor
  let nameStart ← next.expectBlanks?
  let (name, next) ← escapedIdentifier? nameStart
  return (⟨typeName, name, nameStart.offset⟩, next)

/-- A typed variable, field or parameter: the name is followed by an equals sign, a
semicolon, a comma or a closing parenthesis. -/
def typedVariable : Pattern Typed := fun before cursor => do
  guard (startsType before)
  let (typed, next) ← typedName? cursor
  let next := next.skipBlanks
  guard (next.isAt '=' || next.isAt ';' || next.isAt ',' || next.isAt ')')
  return (typed, next)

/-- The variable of a `catch` clause. -/
def caught : Pattern Typed := fun before cursor => do
  guard (startsWord before)
  let next ← cursor.expectWord? "catch"
  let next ← next.skipBlanks.expect? '('
  let (typeName, next) ← dottedName? next.skipBlanks
  let nameStart ← next.expectBlanks?
  let (name, next) ← escapedIdentifier? nameStart
  let next ← next.skipBlanks.expect? ')'
  return (⟨typeName, name, nameStart.offset⟩, next)

/-- Read the word `var`, a name and an equals sign, up to what follows it. -/
def inferred? (before : Option CodePoint) (cursor : Cursor) : Option (Text × Cursor) := do
  guard (startsWord before)
  let next ← cursor.expectWord? "var"
  let next ← next.expectBlanks?
  let (name, next) ← escapedIdentifier? next
  let next ← next.skipBlanks.expect? '='
  return (name, next.skipBlanks)

/-- A variable that holds a new object: its name and the type of the object. -/
def createdVariable : Pattern (Text × Text) := fun before cursor => do
  let (name, next) ← inferred? before cursor
  let next ← next.expectWord? "new"
  let next ← next.expectBlanks?
  let (typeName, next) ← dottedName? next
  return ((name, typeName), next)

/-- A variable that holds a string literal of any kind. -/
def textVariable : Pattern Text := fun before cursor => do
  let (name, next) ← inferred? before cursor
  let next ← (next.skip fun c => c = '$' || c = '@').expect? '"'
  return (name, next)

/-- A variable that holds the result of a call: its name and the name of the method. -/
def calledVariable : Pattern (Text × Text) := fun before cursor => do
  let (name, next) ← inferred? before cursor
  let (path, next) ← dottedName? next
  let callee := Text.afterLast '.' path
  guard (callee.head?.any CodePoint.isIdentifierStart)
  let next ← next.skipBlanks.expect? '('
  return ((name, callee), next)

/-- A constant, up to the equals sign. -/
def constant : Pattern Typed := fun before cursor => do
  guard (startsWord before)
  let next ← cursor.expectWord? "const"
  let (typed, next) ← typedName? (← next.expectBlanks?)
  let next ← next.skipBlanks.expect? '='
  return (typed, next)

/-- The head of a method, up to its opening parenthesis. -/
def methodHead : Pattern Typed := fun before cursor => do
  guard (startsType before)
  let (typeName, next) ← typeName? cursor
  let nameStart ← next.expectBlanks?
  let (name, next) ← identifier? nameStart
  let next ← (skipAngles typeStops next.skipBlanks).skipBlanks.expect? '('
  return (⟨typeName, name, nameStart.offset⟩, next)

/-- Names of the attribute that marks a logging method. -/
def markNames : List Text :=
  ["MessageTemplateFormatMethod", "MessageTemplateFormatMethodAttribute"]

/-- The attribute that marks a logging method, up to the opening quote of its argument. -/
def markAttribute : Pattern Unit := fun _ cursor => do
  let next ← cursor.expect? '['
  let (path, next) ← dottedName? next.skipBlanks
  guard (Text.afterLast '.' path ∈ markNames)
  let next ← next.skipBlanks.expect? '('
  let next ← next.skipBlanks.expect? '"'
  return ((), next)

end TemplateLint.Declare
