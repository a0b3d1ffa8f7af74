import TemplateLint.Report.Diagnostic
import TemplateLint.Template.Segment

/-!
# Binding properties to values

Values are given to properties by count and position only. Named properties take
the values in textual order, positional ones the value at their index; a template
that mixes the kinds is reported once and then read as if every property were
named. A property is reported at its place in the template, which the caller turns
into a place in the file, and a value at its own place.
-/

namespace TemplateLint.Template

/-- How properties and values fail to correspond. -/
inductive Mismatch
  /-- Positional and named properties stand together. -/
  | mixed
  /-- A named property has no value. -/
  | unboundName (name : Text)
  /-- A value comes after the last named property. -/
  | surplus
  /-- A value is passed to a template without properties. -/
  | noProperties
  /-- A positional property has no value. -/
  | unboundIndex (index : Nat)
  /-- No positional property has the position of a value. -/
  | unusedPosition
  deriving DecidableEq

/-- Wording of the mismatch. -/
def Mismatch.message : Mismatch → Text
  | .mixed => "Positional properties are not allowed, when named properties are being used"
  | .unboundName name =>
    "There is no argument that corresponds to the named property '" ++ name ++ "'"
  | .surplus => "There is no named property that corresponds to this argument"
  | .noProperties => "There is no property that corresponds to this argument"
  | .unboundIndex index =>
    "There is no argument that corresponds to the positional property " ++ Text.ofNat index
  | .unusedPosition => "There is no positional property that corresponds to this argument"

/-- The diagnostic of a mismatch. -/
def Mismatch.at (mismatch : Mismatch) (span : Span) : Diagnostic :=
  { rule := .bindError, message := mismatch.message, span }

/-- Bind by order: the properties past the last value, then the values past the last
property. -/
def bindNamed (holes : List Property) (values : List Span) (locate : Span → Span) :
    List Diagnostic :=
  let extra : Mismatch := if holes = [] then .noProperties else .surplus
  (holes.drop values.length).map (fun hole =>
      (Mismatch.unboundName hole.name).at (locate hole.span))
    ++ (values.drop holes.length).map extra.at

/-- The distinct indices of the properties in increasing order. -/
def indices (holes : List Property) : List Nat :=
  (holes.filterMap Property.index).eraseDups.mergeSort fun i j => decide (i ≤ j)

/-- Bind by index: every index past the last value, at its first property, then the
values whose position is no index. -/
def bindPositional (holes : List Property) (values : List Span) (locate : Span → Span) :
    List Diagnostic :=
  let used := indices holes
  (used.filter fun index => decide (values.length ≤ index)).filterMap (fun index =>
      (holes.find? fun hole => decide (hole.index = some index)).map fun hole =>
        (Mismatch.unboundIndex index).at (locate hole.span))
    ++ (values.zipIdx.filter fun value => !used.contains value.2).map
      fun value => Mismatch.unusedPosition.at value.1

/-- Every mismatch between the properties of a template and the values of a call. -/
def bind (segments : List Segment) (values : List Span) (locate : Span → Span) :
    List Diagnostic :=
  let holes := properties segments
  match holes.filter Property.isPositional with
  | [] => bindNamed holes values locate
  | first :: rest =>
    if (first :: rest).length = holes.length then bindPositional holes values locate
    else Mismatch.mixed.at (locate first.span) :: bindNamed holes values locate

end TemplateLint.Template
