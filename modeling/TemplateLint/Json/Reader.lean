import TemplateLint.Json.Basic
import TemplateLint.Text.Cursor
import TemplateLint.Text.Numeral

/-!
# Reading JSON

A document is one value between blanks. Reading stops at the first fault and says
at which offset it lies. The words `NaN`, `Infinity` and `-Infinity` are numbers, a
name that is repeated in an object keeps its first place and its last value, and
an escape may denote a lone surrogate. Arrays and objects may lie inside each other
up to a fixed depth.
-/

namespace TemplateLint.Json

/-- What is wrong with a document. -/
inductive Cause
  /-- The document starts with a byte order mark. -/
  | byteOrderMark
  /-- No value starts here. -/
  | value
  /-- No name starts here. -/
  | name
  /-- No colon follows a name. -/
  | colon
  /-- No comma follows a value. -/
  | comma
  /-- Something follows the document. -/
  | extra
  /-- A string has no end. -/
  | unterminated
  /-- A string holds a control character. -/
  | control
  /-- No escape starts like this. -/
  | escape
  /-- A numeric escape lacks digits. -/
  | numericEscape
  deriving DecidableEq

/-- Wording of the cause. -/
def Cause.message : Cause → Text
  | .byteOrderMark => "Unexpected UTF-8 BOM (decode using utf-8-sig)"
  | .value => "Expecting value"
  | .name => "Expecting property name enclosed in double quotes"
  | .colon => "Expecting ':' delimiter"
  | .comma => "Expecting ',' delimiter"
  | .extra => "Extra data"
  | .unterminated => "Unterminated string starting at"
  | .control => "Invalid control character at"
  | .escape => "Invalid \\escape"
  | .numericEscape => "Invalid \\uXXXX escape"

/-- The largest number of arrays and objects that lie inside each other. -/
def depthLimit : Nat := 989

/-- An array or an object that lies too deep. -/
inductive TooDeep
  /-- An array. -/
  | array
  /-- An object. -/
  | object
  deriving DecidableEq

/-- Wording of the refusal. -/
def TooDeep.message (fault : TooDeep) : Text :=
  "maximum recursion depth exceeded while decoding a JSON " ++
    (match fault with
      | .array => Text.ofString "array"
      | .object => "object") ++
    " from a unicode string"

/-- Why a document has no value. -/
inductive Fault
  /-- The document is malformed at an offset. -/
  | malformed (cause : Cause) (offset : Nat)
  /-- A whole number has more digits than are converted. -/
  | oversized (numeral : Text.Oversized)
  /-- The values inside each other are too many. -/
  | tooDeep (fault : TooDeep)
  deriving DecidableEq

/-- Wording of a fault of a document, with the line and column of its offset. -/
def faultMessage (document : Text) (cause : Cause) (offset : Nat) : Text :=
  let earlier := document.take offset
  let line := earlier.count (CodePoint.ofChar '\n') + 1
  let column := (Text.afterLast '\n' earlier).length + 1
  cause.message ++ ": line " ++ Text.ofNat line ++ " column " ++ Text.ofNat column ++
    " (char " ++ Text.ofNat offset ++ ")"

/-- A fault at a cursor. -/
def failAt {α : Type} (cursor : Cursor) (cause : Cause) : Except Fault α :=
  .error (.malformed cause cursor.offset)

/-- Step over spaces, tabs and line ends. -/
def skipSpace (cursor : Cursor) : Cursor :=
  cursor.skip fun c => decide (c = ' ' ∨ c = '\t' ∨ c = '\n' ∨ c = '\r')

/-- What a backslash and a single code point denote. -/
def shortEscape? (c : CodePoint) : Option CodePoint :=
  if c = '"' ∨ c = '\\' ∨ c = '/' then some c
  else if c = 'b' then some (CodePoint.ofChar '\x08')
  else if c = 'f' then some (CodePoint.ofChar '\x0c')
  else if c = 'n' then some (CodePoint.ofChar '\n')
  else if c = 'r' then some (CodePoint.ofChar '\r')
  else if c = 't' then some (CodePoint.ofChar '\t')
  else none

/-- The value of four hexadecimal digits that are not the end of the document. -/
def fourDigits? (rest : Text) : Option Nat :=
  let digits := rest.take 4
  if digits.length = 4 ∧ digits.all CodePoint.isHexDigit then some (Text.hexValue digits) else none

/-- The code point of the escape whose backslash stands at `offset` and is followed by
`rest`, and the number of code points that it takes after the backslash. Two escapes
for the halves of a pair of surrogates denote one code point, unless they end the
document. -/
def readEscape (start offset : Nat) (rest : Text) : Except Fault (CodePoint × Nat) :=
  match rest with
  | [] => .error (.malformed .unterminated start)
  | kind :: more =>
    if kind = 'u' then
      match (if more.drop 4 = [] then none else fourDigits? more) with
      | none => .error (.malformed .numericEscape (offset + 1))
      | some high =>
        let next := more.drop 4
        if 0xD800 ≤ high ∧ high ≤ 0xDBFF ∧ next.drop 6 ≠ [] ∧
            next.take 2 = [CodePoint.ofChar '\\', CodePoint.ofChar 'u'] then
          match fourDigits? (next.drop 2) with
          | none => .error (.malformed .numericEscape (offset + 7))
          | some low =>
            if 0xDC00 ≤ low ∧ low ≤ 0xDFFF then
              .ok ((CodePoint.ofNat? (0x10000 + (high - 0xD800) * 1024 + (low - 0xDC00))).getD ' ',
                11)
            else .ok ((CodePoint.ofNat? high).getD ' ', 5)
        else .ok ((CodePoint.ofNat? high).getD ' ', 5)
    else
      match shortEscape? kind with
      | some c => .ok (c, 1)
      | none => .error (.malformed .escape offset)

/-- Read a string up to its closing quote. Its opening quote stands at `start`, the next
code point at `offset`, and `skip` code points belong to an escape already read. -/
def readString (start offset skip : Nat) : Text → Except Fault (Text × Cursor)
  | [] => .error (.malformed .unterminated start)
  | c :: rest =>
    match skip with
    | skip + 1 => readString start (offset + 1) skip rest
    | 0 =>
      if c = '"' then .ok ([], ⟨offset + 1, rest⟩)
      else if c = '\\' then
        match readEscape start offset rest with
        | .error fault => .error fault
        | .ok (value, width) =>
          (readString start (offset + 1) width rest).map fun result =>
            (value :: result.1, result.2)
      else if c.val ≤ 0x1F then .error (.malformed .control offset)
      else (readString start (offset + 1) 0 rest).map fun result => (c :: result.1, result.2)

/-- Number of digits at the front of a text. -/
def digitCount (t : Text) : Nat :=
  (t.takeWhile CodePoint.isAsciiDigit).length

/-- Length of the fraction at the front of a text: a point and digits. -/
def fractionLength : Text → Nat
  | [] => 0
  | c :: rest => if c = '.' ∧ digitCount rest ≠ 0 then digitCount rest + 1 else 0

/-- Length of the exponent at the front of a text: a letter, a sign and digits. -/
def exponentLength : Text → Nat
  | [] => 0
  | c :: rest =>
    if c = 'e' ∨ c = 'E' then
      let signs := if rest.head? = some (CodePoint.ofChar '-') ∨
        rest.head? = some (CodePoint.ofChar '+') then 1 else 0
      let digits := digitCount (rest.drop signs)
      if digits = 0 then 0 else 1 + signs + digits
    else 0

/-- The value of an exponent with its letter. -/
def exponentValue (t : Text) : Int :=
  let digits := t.drop 1
  if digits.head? = some (CodePoint.ofChar '-') then -(Text.decimalValue digits.tail : Int)
  else if digits.head? = some (CodePoint.ofChar '+') then Text.decimalValue digits.tail
  else Text.decimalValue digits

/-- Read a number. -/
def readNumber (cursor : Cursor) : Except Fault (Json × Cursor) :=
  let negative := cursor.isAt '-'
  let body := if negative then cursor.rest.tail else cursor.rest
  let whole := if body.head? = some (CodePoint.ofChar '0') then 1 else digitCount body
  let fraction := fractionLength (body.drop whole)
  let exponent := exponentLength (body.drop (whole + fraction))
  let next := cursor.advance ((if negative then 1 else 0) + whole + fraction + exponent)
  if whole = 0 then failAt cursor .value
  else if fraction = 0 ∧ exponent = 0 then
    match Text.readNumeral (body.take whole) with
    | .error numeral => .error (.oversized numeral)
    | .ok n => .ok (.int (if negative then -(n : Int) else n), next)
  else
    let digits := body.take whole ++ Text.slice (body.drop whole) 1 fraction
    let power := exponentValue ((body.drop (whole + fraction)).take exponent) -
      ((fraction - 1 : Nat) : Int)
    let bits := realOf (Text.decimalValue digits) power
    .ok (.real (if negative then bits ||| 0x8000000000000000 else bits), next)

/-- Words that are values. -/
def wordValues : List (Text × Json) :=
  [("null", .null), ("true", .bool true), ("false", .bool false),
    ("NaN", .real 0x7FF8000000000000), ("Infinity", .real 0x7FF0000000000000),
    ("-Infinity", .real 0xFFF0000000000000)]

mutual

/-- Read a value, in which up to `room` values may lie inside each other. Every step of
the reading takes one unit of fuel. -/
def readValue (fuel room : Nat) (cursor : Cursor) : Except Fault (Json × Cursor) :=
  match fuel with
  | 0 => failAt cursor .value
  | fuel + 1 =>
    if cursor.isAt '"' then
      (readString cursor.offset (cursor.offset + 1) 0 cursor.rest.tail).map fun result =>
        (.string result.1, result.2)
    else if cursor.isAt '{' then
      let inner := skipSpace (cursor.advance 1)
      if room = 0 then .error (.tooDeep .object)
      else if inner.isAt '}' then .ok (.object [], inner.advance 1)
      else readMembers fuel (room - 1) [] inner
    else if cursor.isAt '[' then
      let inner := skipSpace (cursor.advance 1)
      if room = 0 then .error (.tooDeep .array)
      else if inner.isAt ']' then .ok (.array [], inner.advance 1)
      else readItems fuel (room - 1) [] inner
    else
      match wordValues.find? fun entry => cursor.startsWith entry.1 with
      | some (word, value) => .ok (value, cursor.advance word.length)
      | none => readNumber cursor

/-- Read the items of an array up to its end; `done` holds the earlier ones, last first. -/
def readItems (fuel room : Nat) (done : List Json) (cursor : Cursor) :
    Except Fault (Json × Cursor) :=
  match fuel with
  | 0 => failAt cursor .value
  | fuel + 1 =>
    match readValue fuel room cursor with
    | .error fault => .error fault
    | .ok (item, next) =>
      let next := skipSpace next
      if next.isAt ']' then .ok (.array (item :: done).reverse, next.advance 1)
      else if next.isAt ',' then readItems fuel room (item :: done) (skipSpace (next.advance 1))
      else failAt next .comma

/-- Read the members of an object up to its end; `done` holds the earlier ones. -/
def readMembers (fuel room : Nat) (done : Assoc Json) (cursor : Cursor) :
    Except Fault (Json × Cursor) :=
  match fuel with
  | 0 => failAt cursor .value
  | fuel + 1 =>
    if cursor.isAt '"' then
      match readString cursor.offset (cursor.offset + 1) 0 cursor.rest.tail with
      | .error fault => .error fault
      | .ok (name, next) =>
        let colon := skipSpace next
        if colon.isAt ':' then
          match readValue fuel room (skipSpace (colon.advance 1)) with
          | .error fault => .error fault
          | .ok (value, next) =>
            let next := skipSpace next
            let members := done.insert name value
            if next.isAt '}' then .ok (.object members, next.advance 1)
            else if next.isAt ',' then readMembers fuel room members (skipSpace (next.advance 1))
            else failAt next .comma
        else failAt colon .colon
    else failAt cursor .name

end

/-- The value of a document. -/
def parse (document : Text) : Except Fault Json :=
  if document.head? = some (CodePoint.ofChar '\uFEFF') then .error (.malformed .byteOrderMark 0)
  else
    match readValue (2 * document.length + 2) depthLimit (skipSpace ⟨0, document⟩) with
    | .error fault => .error fault
    | .ok (value, next) =>
      let next := skipSpace next
      if next.rest = [] then .ok value else failAt next .extra

end TemplateLint.Json
