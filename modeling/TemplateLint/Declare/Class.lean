import TemplateLint.Declare.Pattern
import TemplateLint.Source.Bracket

/-!
# Classes

Classes, structures, interfaces and records with their bases and bodies. A body
without a closing brace reaches to the end of the source.
-/

namespace TemplateLint.Declare

open Source

/-- The declaration of a class. -/
structure ClassDecl where
  /-- Name of the class. -/
  name : Text
  /-- Bases as written. -/
  bases : List Text
  /-- Offset of the opening brace of the body. -/
  bodyStart : Nat
  /-- Offset of the closing brace of the body, or the length of the source. -/
  bodyEnd : Nat
  /-- Whether `static` stands in front on the same line. -/
  isStatic : Bool
  deriving DecidableEq

/-- Words that start the declaration of a class. -/
def classWords : List Text :=
  ["class", "struct", "interface", "record"]

/-- What may not stand between the angle brackets after the name of a class. -/
def classStops : List CodePoint :=
  ['<', '>', '{'].map CodePoint.ofChar

/-- Step over a constraint, which starts with `where`, up to and over the next brace. -/
def constraint? (cursor : Cursor) : Option Cursor := do
  let next ← cursor.expectWord? "where"
  guard (!next.rest.head?.any CodePoint.isWord)
  (next.skip fun c => c ≠ '{').expect? '{'

/-- Step over blanks, perhaps a constraint, and the opening brace of the body. -/
def bodyOpening? (cursor : Cursor) : Option Cursor :=
  let next := cursor.skipBlanks
  (constraint? next).or (next.expect? '{')

/-- The shortest list of bases, of one code point at least, after which the body opens.
The text starts at `offset`, and `earlier` holds the code points already taken, last
first. -/
def basesFrom? (offset : Nat) (earlier : Text) : Text → Option (Text × Cursor)
  | [] => none
  | c :: rest =>
    match (if earlier.isEmpty then none else bodyOpening? ⟨offset, c :: rest⟩) with
    | some next => some (earlier.reverse, next)
    | none => if c = '{' ∨ c = ';' then none else basesFrom? (offset + 1) (c :: earlier) rest

/-- Read the bases after a colon. Blanks after the colon are no bases, but they are enough
for the body to open right after them. -/
def bases? (cursor : Cursor) : Option (Text × Cursor) :=
  let start := cursor.skipBlanks
  match basesFrom? start.offset [] start.rest with
  | some found => some found
  | none =>
    if start.offset = cursor.offset then none
    else (bodyOpening? start).map fun next => ([], next)

/-- Read what follows the name of a class, up to the opening brace: type parameters, bases
and constraints. -/
def classTail? (cursor : Cursor) : Option (Text × Cursor) :=
  let generic := skipAngles classStops cursor.skipBlanks
  let next := generic.skipBlanks
  if next.isAt ':' then bases? (next.advance 1) else (bodyOpening? next).map fun next => ([], next)

/-- The head of a class: its name and its bases. A name that ends in `where` and would
otherwise not be followed by a body gives that ending to a constraint. -/
def classHead : Pattern (Text × Text) := fun before cursor => do
  guard (startsWord before)
  let word ← classWords.find? fun word => cursor.startsWith word
  let nameStart ← (cursor.advance word.length).expectBlanks?
  let (name, next) ← identifier? nameStart
  match classTail? next with
  | some (bases, next) => return ((name, bases), next)
  | none =>
    guard (Text.endsWith name "where" && decide (5 < name.length))
    let next ← constraint? (nameStart.advance (name.length - 5))
    return ((name.take (name.length - 5), []), next)

/-- The classes of a masked source in order. -/
def classes (masked : Text) : List ClassDecl :=
  (occurrences classHead masked).map fun found =>
    let bodyStart := found.stop - 1
    { name := found.value.1
      bases := ((Text.split ',' found.value.2).map Text.trim).filter fun base => !base.isEmpty
      bodyStart
      bodyEnd := (findClosing masked bodyStart).getD masked.length
      isStatic := (Text.splitWhere (fun c => !c.isWord)
        (Text.afterLast '\n' (masked.take found.start))).contains (Text.ofString "static") }

end TemplateLint.Declare
