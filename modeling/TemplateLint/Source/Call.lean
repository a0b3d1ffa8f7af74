import TemplateLint.Call.Analysis
import TemplateLint.Source.Prepared

/-!
# Calls in a source

A call is a name, perhaps after a dotted qualifier and with type arguments, and an
argument list in parentheses. Only names with a known shape are looked at, and the
declaration of a method is not taken for a call. What cannot be read is noted and
skipped.
-/

namespace TemplateLint.Source

open Declare

/-- The head of a call, up to its opening parenthesis. -/
structure CallHead where
  /-- Names of the qualifier in order. -/
  qualifier : List Text
  /-- Name of the method. -/
  name : Text
  /-- Offset of the name. -/
  nameAt : Nat
  deriving DecidableEq

/-- What may not stand between the type arguments of a call. -/
def callStops : List CodePoint :=
  ['<', '>', '(', ')', ';'].map CodePoint.ofChar

/-- Step over the point after a name of a qualifier; a question mark may precede it. -/
def memberPoint? (cursor : Cursor) : Option Cursor :=
  let next := cursor.skipBlanks
  ((if next.isAt '?' then next.advance 1 else next).expect? '.').map Cursor.skipBlanks

/-- Stepping over a point does not lengthen the rest. -/
theorem length_of_memberPoint? {cursor next : Cursor} (h : memberPoint? cursor = some next) :
    next.rest.length ≤ cursor.rest.length := by
  unfold memberPoint? at h
  obtain ⟨point, hpoint, rfl⟩ := Option.map_eq_some_iff.mp h
  have hmark : (if cursor.skipBlanks.isAt '?' then cursor.skipBlanks.advance 1
      else cursor.skipBlanks).rest.length ≤ cursor.rest.length := by
    split
    · exact Nat.le_trans (Cursor.length_advance_le _ _) (Cursor.length_advance_le _ _)
    · exact Cursor.length_advance_le _ _
  exact Nat.le_trans (Cursor.length_advance_le _ _)
    (Nat.le_trans (Cursor.length_of_expect? hpoint) hmark)

/-- An escaped identifier takes at least one code point. -/
theorem length_of_escapedIdentifier? {cursor next : Cursor} {name : Text}
    (h : escapedIdentifier? cursor = some (name, next)) :
    next.rest.length < cursor.rest.length := by
  have hskip : (skipEscape cursor).rest.length ≤ cursor.rest.length := by
    unfold skipEscape
    split
    · exact Cursor.length_advance_le _ _
    · exact Nat.le_refl _
  exact Nat.lt_of_lt_of_le (length_of_identifier? h) hskip

/-- Read names with points between them, the last of which is followed by a parenthesis. -/
def callHead? (qualifier : List Text) (cursor : Cursor) : Option (CallHead × Cursor) :=
  match hname : escapedIdentifier? cursor with
  | none => none
  | some (name, next) =>
    match hpoint : memberPoint? next with
    | some member =>
      have := Nat.lt_of_le_of_lt (length_of_memberPoint? hpoint)
        (length_of_escapedIdentifier? hname)
      callHead? (qualifier ++ [name]) member
    | none => do
      let next ← (skipAngles callStops next.skipBlanks).skipBlanks.expect? '('
      return (⟨qualifier, name, cursor.offset⟩, next)
termination_by cursor.rest.length

/-- The head of a call, which does not start inside a word. -/
def callHead : Pattern CallHead := fun before cursor => do
  guard (!before.any fun (c : CodePoint) => c.isWord || c = '@')
  callHead? [] cursor

/-- Words after which a name and a parenthesis are still a call. -/
def callWords : List Text :=
  ["return", "await", "else", "yield", "throw", "in", "case", "when", "is", "as", "do"]

/-- How far back the word in front of a call is sought. -/
def lookBehind : Nat := 200

/-- The identifier at the end of a text, with an `@` in front of it. It starts at the first
code point of the last run of word characters that can start an identifier. -/
def lastWord? (t : Text) : Option Text :=
  let run := (t.reverse.takeWhile CodePoint.isWord).reverse
  let word := run.dropWhile fun c => !c.isIdentifierStart
  if word.isEmpty then none
  else if word.length = run.length ∧
      (t.take (t.length - run.length)).getLast? = some (CodePoint.ofChar '@') then
    some ('@' :: word)
  else some word

/-- Whether the name at `start` is being declared: a type stands in front of it. -/
def isDeclaration (masked : Text) (start : Nat) : Bool :=
  let before := Text.trimRight (masked.slice (start - lookBehind) start)
  Text.endsWith before "[]" ||
    match lastWord? before with
    | none => false
    | some word => decide (word ∉ callWords)

/-- A call with the places that are needed to edit it. -/
structure ScannedCall where
  /-- The call. -/
  call : CallSite
  /-- Offset of the opening parenthesis. -/
  openParen : Nat
  /-- Offset of the closing parenthesis. -/
  closeParen : Nat
  /-- Ranges of the arguments. -/
  ranges : List Range
  deriving DecidableEq

namespace Prepared

/-- The type of an expression: the one that its form tells, or the one declared for its
variable or method. -/
def typeOf (source : Prepared) (fact : Fact) : Option Text :=
  match fact.typeName, fact.symbol, fact.callee, fact.dotted with
  | some typeName, _, _, _ => some typeName
  | none, some symbol, _, _ => source.symbols.variableType symbol
  | none, none, some callee, _ => source.symbols.returnType callee
  | none, none, none, some dotted =>
    if Text.startsWith dotted "this." then source.symbols.variableType (dotted.drop 5) else none
  | none, none, none, none => none

/-- The constant value of an expression: its own, or that of the constant it names. -/
def constantOf (source : Prepared) (fact : Fact) : Option Text :=
  match fact.constant with
  | some value => some value
  | none => (fact.symbol.or fact.dotted).bind source.symbols.constantValue

/-- What is known about the argument in a range. Its span is that of its literal, if it is
one. -/
def describe (source : Prepared) (range : Range) : Except Failure Argument := do
  let text := range.of source.text
  let fact ← Fact.ofText text
  let typeName := source.typeOf fact
  let span :=
    match fact.literal? with
    | some lit =>
      source.index.span (range.start + fact.literalOffset) lit.source.length source.file
    | none => source.span range
  return { text, span, isException := source.symbols.isException typeName
           constant := source.constantOf fact, literal := fact.literal?, typeName }

end Prepared

/-- What becomes of a call that is looked at. -/
inductive CallNote
  /-- The argument list has no end. -/
  | unbalanced (method : Text) (place : Position)
  /-- An argument holds a malformed literal. -/
  | malformed (place : Position) (failure : Failure)
  /-- The call is read. -/
  | call (place : Position) (scanned : ScannedCall)

/-- The log entry of a call. -/
def CallNote.entry : CallNote → LogEntry
  | .unbalanced method place =>
    ⟨.warning, "Unbalanced argument list for " ++ method ++ " at " ++ showPlace place ++
      "; skipping"⟩
  | .malformed place failure =>
    ⟨.warning, "Skipping call site at " ++ showPlace place ++ ": " ++ failure.describe⟩
  | .call place scanned =>
    ⟨.debug, "  Call site " ++ scanned.call.method ++ " at " ++ showPlace place ++ " with " ++
      Text.ofNat scanned.call.arguments.length ++ " argument(s)"⟩
where
  /-- Line and column. -/
  showPlace (place : Position) : Text :=
    Text.ofInt place.line ++ ":" ++ Text.ofInt place.column

/-- Read a call. Names without a shape and declarations are passed over. -/
def readCall? (source : Prepared) (found : Occurrence CallHead) : Option CallNote :=
  let name := found.value.name
  if name ∈ keywords ∨ !source.config.shapes.contains name ∨
      isDeclaration source.masked found.start then none
  else
    let place := source.index.locate found.value.nameAt
    let openParen := found.stop - 1
    match findClosing source.masked openParen with
    | none => some (.unbalanced name place)
    | some closeParen =>
      let ranges := splitTopLevel source.masked (openParen + 1) closeParen
      match ranges.mapM source.describe with
      | .error failure => some (.malformed place failure)
      | .ok arguments =>
        let explicitReceiver :=
          found.value.qualifier.getLast?.any source.config.extensionClasses.contains
        some (.call place {
          call :=
            { method := name, arguments, explicitReceiver
              span := source.span ⟨found.start, closeParen + 1⟩ }
          openParen, closeParen, ranges })

/-- What becomes of every call of a source, in order. -/
def callNotes (source : Prepared) : List CallNote :=
  (occurrences callHead source.masked).filterMap (readCall? source)

/-- The calls of a source that can be read. -/
def scan (source : Prepared) : List ScannedCall :=
  (callNotes source).filterMap fun
    | .call _ scanned => some scanned
    | _ => none

end TemplateLint.Source
