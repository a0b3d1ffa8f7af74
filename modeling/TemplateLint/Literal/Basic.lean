import TemplateLint.Report.Span

/-!
# String literals

A literal is kept as its source text, quotes included. Diagnostics are found in
the decoded value but shown in the source, so this module walks the source unit
by unit, where a unit is a code point or an escape and stands for one code point
of the value. The walk is total: it also crosses truncated and unknown escapes.
-/

namespace TemplateLint

/-- Source of a string literal. -/
structure Literal where
  /-- All code points of the token, opener and quotes included. -/
  source : Text
  /-- Verbatim literals start with `@` and know doubled quotes only. -/
  isVerbatim : Bool
  deriving DecidableEq

namespace Literal

/-- A token is verbatim exactly when it starts with `@`. -/
def ofSource (source : Text) : Literal :=
  ⟨source, source.head? = some (CodePoint.ofChar '@')⟩

/-- Number of code points in front of the content. -/
def contentStart (lit : Literal) : Nat :=
  if lit.isVerbatim then 2 else 1

/-- Offset of the closing quote, or of the end when there is none. -/
def contentEnd (lit : Literal) : Nat :=
  if lit.contentStart < lit.source.length ∧
      lit.source.getLast? = some (CodePoint.ofChar '"') then lit.source.length - 1
  else max lit.source.length lit.contentStart

/-- Width of an escape, given what follows its backslash. -/
def escapeWidth : Text → Nat
  | [] => 1
  | kind :: rest =>
    if kind = 'x' then 2 + ((rest.take 4).takeWhile CodePoint.isHexDigit).length
    else if kind = 'u' then 6
    else if kind = 'U' then 10
    else 2

/-- Width of the first unit of a nonempty content. -/
def unitWidth (isVerbatim : Bool) : Text → Nat
  | [] => 1
  | c :: rest =>
    if isVerbatim then
      if c = '"' ∧ rest.head? = some (CodePoint.ofChar '"') then 2 else 1
    else if c = '\\' then escapeWidth rest
    else 1

/-- Width of the first `count` units of `content`, at most `room`. -/
def walk (isVerbatim : Bool) : (count room : Nat) → (content : Text) → Nat
  | 0, _, _ => 0
  | _ + 1, 0, _ => 0
  | count + 1, room + 1, content =>
    let width := unitWidth isVerbatim content
    if room + 1 ≤ width then room + 1
    else width + walk isVerbatim count (room + 1 - width) (content.drop width)

/-- Offset in the source of an offset in the value. Offsets before the value go to
the start of the content, offsets past it to its end. -/
def mapOffset (lit : Literal) (offset : Int) : Nat :=
  lit.contentStart + walk lit.isVerbatim offset.toNat (lit.contentEnd - lit.contentStart)
    (lit.source.drop lit.contentStart)

/-- Range of the source, as start and length, of a range of the value. -/
def mapRange (lit : Literal) (start length : Int) : Nat × Nat :=
  let first := lit.mapOffset start
  (first, lit.mapOffset (start + max length 0) - first)

/-- The span of a source range of a literal whose first code point is at `origin`.
Without an offset in the file the range stays relative to the literal. -/
def spanIn (lit : Literal) (origin : Span) (start length : Int) : Span :=
  let earlier := lit.source.take (Text.cutAt lit.source start)
  let breaks := earlier.count (CodePoint.ofChar '\n')
  let offset := some (match origin.offset with
    | some offset => offset + start
    | none => start)
  match origin.line with
  | some line =>
    if breaks = 0 then
      { file := origin.file, line := some line, column := origin.column.map (· + start),
        length := some length, offset }
    else
      let lastBreak : Int := earlier.length - 1 - (earlier.reverse.idxOf (CodePoint.ofChar '\n'))
      { file := origin.file, line := some (line + breaks), column := some (start - lastBreak),
        length := some length, offset }
  | none =>
    { file := origin.file, line := none, column := origin.column.map (· + start),
      length := some length, offset }

end Literal

end TemplateLint
