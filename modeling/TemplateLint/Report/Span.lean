import TemplateLint.Text.Position

/-!
# Spans

A span is a place in a file or, when only its offset and length are set, a range
of a decoded template. Whatever is not known is left out.
-/

namespace TemplateLint

/-- A range of a file or of a decoded template. -/
structure Span where
  /-- Name of the file. -/
  file : Option Text := none
  /-- Line of the first code point, counted from one. -/
  line : Option Int := none
  /-- Column of the first code point, counted from one. -/
  column : Option Int := none
  /-- Number of code points. -/
  length : Option Int := none
  /-- Offset of the first code point. -/
  offset : Option Int := none
  deriving DecidableEq

namespace Span

/-- A range of a decoded template. -/
def relative (start length : Nat) : Span :=
  { offset := some start, length := some length }

/-- A span without a line but with an offset lies in a template. -/
def isRelative (span : Span) : Bool :=
  span.line.isNone && span.offset.isSome

/-- The place as a report shows it. -/
def location (span : Span) : Text :=
  match span.line with
  | none => "<unknown location>"
  | some line =>
    let place := Text.ofInt line ++ ":" ++ Text.ofInt (span.column.getD 0)
    match span.file with
    | some (c :: file) => (c :: file) ++ ":" ++ place
    | _ => place

end Span

/-- The span of `length` code points at an offset of a file. -/
def LineIndex.span (index : LineIndex) (offset : Nat) (length : Int) (file : Option Text) : Span :=
  let place := index.locate offset
  { file, line := some place.line, column := some place.column, length := some length,
    offset := some offset }

end TemplateLint
