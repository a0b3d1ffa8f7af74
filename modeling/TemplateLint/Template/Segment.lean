import TemplateLint.Report.Span

/-!
# Template segments

A parsed template is a list of texts and properties in order. A property keeps
the place of its braces in the template.
-/

namespace TemplateLint.Template

/-- How the value of a property is captured. -/
inductive Capture
  /-- Without a hint. -/
  | plain
  /-- With the hint `@`. -/
  | destructure
  /-- With the hint `$`. -/
  | stringify
  deriving DecidableEq

/-- Minimal width of a rendered value and the side to which it is moved. -/
structure Alignment where
  /-- Width in code points. -/
  value : Nat
  /-- A minus sign moves the value to the left. -/
  isLeft : Bool
  deriving DecidableEq

/-- A hole of a template. -/
structure Property where
  /-- Name without the hint. -/
  name : Text
  /-- Number of a positional property, whose name consists of digits. -/
  index : Option Nat
  /-- How the value is captured. -/
  capture : Capture
  /-- Alignment, if one is written. -/
  alignment : Option Alignment
  /-- Format, if one is written. -/
  format : Option Text
  /-- Offset of the opening brace. -/
  start : Nat
  /-- Number of code points from the opening to the closing brace. -/
  length : Nat
  deriving DecidableEq

namespace Property

/-- Whether the property takes the value at its index. -/
def isPositional (p : Property) : Bool :=
  p.index.isSome

/-- The range of the property in the template. -/
def span (p : Property) : Span :=
  Span.relative p.start p.length

end Property

/-- One part of a template. -/
inductive Segment
  /-- A run of text, braces already collapsed. -/
  | text (content : Text)
  /-- A hole. -/
  | property (hole : Property)
  deriving DecidableEq

/-- The holes of a template in order. -/
def properties (segments : List Segment) : List Property :=
  segments.filterMap fun
    | .text _ => none
    | .property hole => some hole

end TemplateLint.Template
