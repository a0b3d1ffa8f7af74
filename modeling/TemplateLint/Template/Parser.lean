import TemplateLint.Template.Segment
import TemplateLint.Text.Numeral

/-!
# Parsing templates

A template is a sequence of pieces: a doubled brace that stands for one brace, any
other code point but an opening brace, or a property that reaches from an opening
brace to the next closing one. Inside the braces stand an optional hint, a name, an
alignment after a comma that comes before the first colon, and a format after that
colon. Parsing stops at the first fault and locates it in the template.
-/

namespace TemplateLint.Template

/-- What is wrong with a property. -/
inductive Cause
  /-- No closing brace follows. -/
  | unclosed
  /-- Neither a hint nor a name stands between the braces. -/
  | unnamed
  /-- A hint stands without a name. -/
  | hintOnly
  /-- The name holds a code point other than a letter, a digit or an underscore. -/
  | nameChar (c : CodePoint) (hinted : Bool)
  /-- A comma is followed by no digits. -/
  | noAlignment
  /-- A minus sign does not come first. -/
  | misplacedMinus
  /-- The alignment holds a code point other than a digit. -/
  | alignmentChar (c : CodePoint)
  /-- The alignment is zero. -/
  | zeroAlignment
  /-- The format holds a code point that no format has. -/
  | formatChar (c : CodePoint)
  deriving DecidableEq

/-- Wording of the cause. -/
def Cause.message : Cause → Text
  | .unclosed => "Encountered end of messageTemplate while parsing property"
  | .unnamed => "Found property without name"
  | .hintOnly => "Found property with destructuring hint but without name"
  | .nameChar c hinted =>
    "Found invalid character '" ++ [c] ++ "' in " ++
      (if hinted then Text.ofString "property name" else "property")
  | .noAlignment => "Found alignment specifier without alignment"
  | .misplacedMinus => "'-' character must be the first in alignment"
  | .alignmentChar c => "Found invalid character '" ++ [c] ++ "' in property alignment"
  | .zeroAlignment => "Found zero size alignment"
  | .formatChar c => "Found invalid character '" ++ [c] ++ "' in property format"

/-- A fault and its range in the template. -/
structure Fault where
  /-- What is wrong. -/
  cause : Cause
  /-- Offset of the range. -/
  start : Nat
  /-- Length of the range. -/
  length : Nat
  deriving DecidableEq

/-- The range of a fault. -/
def Fault.span (fault : Fault) : Span :=
  Span.relative fault.start fault.length

/-- Why a template has no segments. -/
inductive Rejection
  /-- The template is malformed. -/
  | malformed (fault : Fault)
  /-- A number has more digits than are converted. -/
  | oversized (numeral : Text.Oversized)
  deriving DecidableEq

/-- A fault that covers one code point. -/
def Rejection.at (cause : Cause) (start : Nat) : Rejection :=
  .malformed ⟨cause, start, 1⟩

/-- The number that a sequence of digits writes. -/
def readNumeral (digits : Text) : Except Rejection Nat :=
  (Text.readNumeral digits).mapError .oversized

/-- Refuse the first code point that is not valid; the text stands at `start`. -/
def checkAll (valid : CodePoint → Bool) (cause : CodePoint → Cause) (start : Nat) :
    Text → Except Rejection Unit
  | [] => .ok ()
  | c :: rest =>
    if valid c then checkAll valid cause (start + 1) rest
    else .error (.at (cause c) start)

/-- Read the alignment after a comma. -/
def readAlignment (commaAt : Nat) (text : Text) : Except Rejection Alignment := do
  if text = [] then throw (.at .noAlignment commaAt)
  let isLeft : Bool := text.head? = some (CodePoint.ofChar '-')
  let digits := if isLeft then text.tail else text
  checkAll CodePoint.isAsciiDigit
    (fun c => if c = '-' then .misplacedMinus else .alignmentChar c)
    (commaAt + 1 + (text.length - digits.length)) digits
  if digits = [] then throw (.at .noAlignment commaAt)
  let value ← readNumeral digits
  if value = 0 then throw (.at .zeroAlignment (commaAt + 1))
  return ⟨value, isLeft⟩

/-- The hint at the front of a name. -/
def readCapture (text : Text) : Capture :=
  if text.head? = some (CodePoint.ofChar '@') then .destructure
  else if text.head? = some (CodePoint.ofChar '$') then .stringify
  else .plain

/-- Read the name at `start` in the property that opens at `brace` and has `length`
code points. -/
def readName (brace length start : Nat) (hinted : Bool) (name : Text) :
    Except Rejection Unit :=
  if name = [] then .error (.malformed ⟨if hinted then .hintOnly else .unnamed, brace, length⟩)
  else checkAll CodePoint.isAsciiWord (.nameChar · hinted) start name

/-- Read the text between the braces of the property that opens at `start`. -/
def readProperty (start : Nat) (body : Text) : Except Rejection Property := do
  let length := body.length + 2
  let head := body.before ':'
  let format := body.after? ':'
  let label := head.before ','
  let capture := readCapture label
  let hinted : Bool := capture ≠ .plain
  let name := if hinted then label.tail else label
  readName start length (start + 1 + (label.length - name.length)) hinted name
  let alignment ← (head.after? ',').mapM (readAlignment (start + 1 + label.length))
  checkAll CodePoint.isFormat .formatChar (start + 2 + head.length) (format.getD [])
  let index ← if name.all CodePoint.isAsciiDigit then some <$> readNumeral name else pure none
  return { name, index, capture, alignment, format, start, length }

/-- A unit of a template. -/
inductive Piece
  /-- One code point of text. -/
  | char (c : CodePoint)
  /-- A property. -/
  | property (hole : Property)
  deriving DecidableEq

/-- The pieces of a template whose first code point stands at `start`. -/
def pieces (start : Nat) (template : Text) : Except Rejection (List Piece) :=
  match template with
  | [] => .ok []
  | c :: rest =>
    if c = '{' then
      if rest.head? = some (CodePoint.ofChar '{') then
        (pieces (start + 2) rest.tail).map (.char c :: ·)
      else
        match h : Text.cut? '}' rest with
        | none => .error (.malformed ⟨.unclosed, start, rest.length + 1⟩)
        | some (body, tail) => do
          let hole ← readProperty start body
          let more ← pieces (start + hole.length) tail
          return .property hole :: more
    else if c = '}' ∧ rest.head? = some (CodePoint.ofChar '}') then
      (pieces (start + 2) rest.tail).map (.char c :: ·)
    else (pieces (start + 1) rest).map (.char c :: ·)
termination_by template.length
decreasing_by
  · simp only [List.length_tail, List.length_cons]
    omega
  · have := Text.length_lt_of_cut? h
    simp only [List.length_cons]
    omega
  · simp only [List.length_tail, List.length_cons]
    omega
  · simp only [List.length_cons]
    omega

/-- Neighbouring code points of text are gathered into one segment. -/
def gather : List Piece → List Segment
  | [] => []
  | .property hole :: rest => .property hole :: gather rest
  | .char c :: rest =>
    match gather rest with
    | .text content :: more => .text (c :: content) :: more
    | more => .text [c] :: more

/-- The segments of a template. -/
def parse (template : Text) : Except Rejection (List Segment) :=
  (pieces 0 template).map gather

end TemplateLint.Template
