import TemplateLint.Literal.Basic
import TemplateLint.Report.Failure

/-!
# Values of string literals

Decoding follows the same units as the walk over the source, and here every
malformed unit is refused. A numeric escape denotes one code point, a surrogate
included.
-/

namespace TemplateLint.Literal

/-- Why a literal has no value. -/
inductive Fault
  /-- The token does not have an opener and a closing quote. -/
  | unquoted
  /-- A quote of a verbatim content is not doubled. -/
  | loneQuote
  /-- A numeric escape has too few digits. -/
  | truncated (kind : CodePoint)
  /-- A numeric escape holds something other than a hexadecimal digit. -/
  | badDigit (kind : CodePoint)
  /-- A numeric escape denotes no code point. -/
  | outOfRange
  /-- No escape starts like this; nothing stands for a backslash at the end. -/
  | unknownEscape (kind : Option CodePoint)
  deriving DecidableEq

/-- Wording of the fault. -/
def Fault.message : Fault → Text
  | .unquoted => "string literal is not quoted"
  | .loneQuote => "unescaped quote in verbatim literal"
  | .truncated kind => "truncated \\" ++ [kind] ++ " escape"
  | .badDigit kind => "invalid hex digit in \\" ++ [kind] ++ " escape"
  | .outOfRange => "escape is outside the unicode range"
  | .unknownEscape kind => "unrecognized escape sequence '\\" ++ kind.toList ++ "'"

/-- The failure that a fault of a token gives. -/
def Fault.failure (fault : Fault) (source : Text) : Failure :=
  { reason := "literal-malformed", message := fault.message, detail := some source }

/-- What a backslash and a single code point denote. -/
def simpleEscape? (kind : CodePoint) : Option CodePoint :=
  if kind = '\'' ∨ kind = '"' ∨ kind = '\\' then some kind
  else if kind = '0' then some (CodePoint.ofChar '\x00')
  else if kind = 'a' then some (CodePoint.ofChar '\x07')
  else if kind = 'b' then some (CodePoint.ofChar '\x08')
  else if kind = 'f' then some (CodePoint.ofChar '\x0c')
  else if kind = 'n' then some (CodePoint.ofChar '\n')
  else if kind = 'r' then some (CodePoint.ofChar '\r')
  else if kind = 't' then some (CodePoint.ofChar '\t')
  else if kind = 'v' then some (CodePoint.ofChar '\x0b')
  else none

/-- The digits of a numeric escape, given what follows its kind. One to four digits
follow `x`, as many as there are; exactly four follow `u` and exactly eight `U`. -/
def numericDigits? (kind : CodePoint) (rest : Text) : Option (Except Fault Text) :=
  if kind = 'x' then
    let digits := (rest.take 4).takeWhile CodePoint.isHexDigit
    some (if digits = [] then .error (.truncated kind) else .ok digits)
  else if kind = 'u' ∨ kind = 'U' then
    let need := if kind = 'u' then 4 else 8
    let digits := rest.take need
    some (if digits.length < need then .error (.truncated kind)
      else if digits.all CodePoint.isHexDigit then .ok digits
      else .error (.badDigit kind))
  else none

/-- The code point of the escape whose backslash is followed by `rest`, and the
number of code points that it takes after the backslash. -/
def readEscape (rest : Text) : Except Fault (CodePoint × Nat) :=
  match rest with
  | [] => .error (.unknownEscape none)
  | kind :: more =>
    match simpleEscape? kind with
    | some c => .ok (c, 1)
    | none =>
      match numericDigits? kind more with
      | none => .error (.unknownEscape (some kind))
      | some (.error fault) => .error fault
      | some (.ok digits) =>
        match CodePoint.ofNat? (Text.hexValue digits) with
        | none => .error .outOfRange
        | some c => .ok (c, digits.length + 1)

/-- Value of a regular content; `skip` code points belong to an escape already read. -/
def regularValue (skip : Nat) : Text → Except Fault Text
  | [] => .ok []
  | c :: rest =>
    match skip with
    | skip + 1 => regularValue skip rest
    | 0 =>
      if c = '\\' then
        match readEscape rest with
        | .error fault => .error fault
        | .ok (value, width) => (regularValue width rest).map (value :: ·)
      else (regularValue 0 rest).map (c :: ·)

/-- Value of a verbatim content. A quote at the very end pairs with the closing one. -/
def verbatimValue : Text → Except Fault Text
  | [] => .ok []
  | [c] => .ok [c]
  | c :: d :: rest =>
    if c = '"' then
      if d = '"' then (verbatimValue rest).map (c :: ·) else .error .loneQuote
    else (verbatimValue (d :: rest)).map (c :: ·)

/-- Opener of a token. -/
def opener (lit : Literal) : Text :=
  if lit.isVerbatim then "@\"" else "\""

/-- Code points between the opener and the closing quote. -/
def content (lit : Literal) : Text :=
  lit.source.slice lit.contentStart lit.contentEnd

/-- Value of a literal. -/
def value (lit : Literal) : Except Fault Text :=
  if Text.startsWith lit.source lit.opener ∧ lit.opener.length < lit.source.length ∧
      lit.source.getLast? = some (CodePoint.ofChar '"') then
    if lit.isVerbatim then verbatimValue lit.content else regularValue 0 lit.content
  else .error .unquoted

/-- Value of a token, which is verbatim exactly when it starts with `@`. -/
def decode (source : Text) : Except Failure Text :=
  (ofSource source).value.mapError (·.failure source)

end TemplateLint.Literal
