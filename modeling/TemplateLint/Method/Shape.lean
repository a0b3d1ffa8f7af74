import TemplateLint.Method.Overload

/-!
# Method shapes

A shape collects the overloads of one method name that take a template, in the
order in which they are tried. A table holds at most one shape per name; a shape
registered under a name that is taken adds its overloads to those already there.
-/

namespace TemplateLint

/-- The overloads of a method that take a template. -/
structure Shape where
  /-- Name of the method. -/
  name : Text
  /-- Overloads in the order in which they are tried. -/
  overloads : List Overload
  /-- Whether the template has to be a constant. -/
  requiresConstant : Bool := true
  deriving DecidableEq

namespace Shape

/-- Add an overload at the end unless it is already there. -/
def addOverload (overloads : List Overload) (overload : Overload) : List Overload :=
  if overload ∈ overloads then overloads else overloads ++ [overload]

/-- The first shape with the new overloads of the second one after its own. -/
def merge (a b : Shape) : Shape where
  name := a.name
  overloads := b.overloads.foldl addOverload a.overloads
  requiresConstant := a.requiresConstant && b.requiresConstant

end Shape

/-- Shapes by name, in the order in which the names were first registered. -/
@[ext]
structure ShapeTable where
  /-- The shapes, one for each name. -/
  shapes : List Shape
  /-- No two shapes have one name. -/
  distinct : (shapes.map Shape.name).Nodup
  deriving DecidableEq

namespace ShapeTable

/-- The table without shapes. -/
def empty : ShapeTable := ⟨[], List.nodup_nil⟩

/-- Merge a shape into a list of shapes. -/
def registerIn (shape : Shape) : List Shape → List Shape
  | [] => [shape]
  | first :: rest =>
    if first.name = shape.name then first.merge shape :: rest
    else first :: registerIn shape rest

/-- A shape of a new name comes last. -/
theorem registerIn_of_not_mem {shape : Shape} {shapes : List Shape}
    (h : shape.name ∉ shapes.map Shape.name) : registerIn shape shapes = shapes ++ [shape] := by
  induction shapes with
  | nil => rfl
  | cons first rest ih =>
    rw [List.map_cons, List.mem_cons, not_or] at h
    rw [registerIn, if_neg (Ne.symm h.1), ih h.2, List.cons_append]

/-- A shape of a name that is there adds no name. -/
theorem map_name_registerIn_of_mem {shape : Shape} {shapes : List Shape}
    (h : shape.name ∈ shapes.map Shape.name) :
    (registerIn shape shapes).map Shape.name = shapes.map Shape.name := by
  induction shapes with
  | nil => cases h
  | cons first rest ih =>
    rw [registerIn]
    split
    · rfl
    · next hfirst =>
      rw [List.map_cons, List.map_cons, ih]
      exact (List.mem_cons.mp h).resolve_left (Ne.symm hfirst)

/-- Registration keeps the names distinct. -/
theorem nodup_registerIn (shape : Shape) {shapes : List Shape}
    (h : (shapes.map Shape.name).Nodup) : ((registerIn shape shapes).map Shape.name).Nodup := by
  by_cases hmem : shape.name ∈ shapes.map Shape.name
  · rw [map_name_registerIn_of_mem hmem]
    exact h
  · rw [registerIn_of_not_mem hmem, List.map_append, List.nodup_append]
    refine ⟨h, List.pairwise_singleton _ _, fun name hname other hother heq => hmem ?_⟩
    cases List.mem_singleton.mp hother
    exact heq ▸ hname

/-- Merge a shape into the table. -/
def register (table : ShapeTable) (shape : Shape) : ShapeTable :=
  ⟨registerIn shape table.shapes, nodup_registerIn shape table.distinct⟩

/-- Merge several shapes into the table, in order. -/
def registerAll (table : ShapeTable) (shapes : List Shape) : ShapeTable :=
  shapes.foldl register table

/-- The table of the given shapes. -/
def ofShapes (shapes : List Shape) : ShapeTable :=
  empty.registerAll shapes

/-- A copy of the table: its shapes are registered in an empty one. -/
def copy (table : ShapeTable) : ShapeTable :=
  ofShapes table.shapes

/-- The shape with a given name. -/
def lookup (table : ShapeTable) (name : Text) : Option Shape :=
  table.shapes.find? fun shape => decide (shape.name = name)

/-- Whether a name has a shape. -/
def contains (table : ShapeTable) (name : Text) : Bool :=
  table.shapes.any fun shape => decide (shape.name = name)

/-- The names in increasing order. -/
def names (table : ShapeTable) : List Text :=
  Text.sort (table.shapes.map Shape.name)

/-- The shapes in the order of their names. -/
def sorted (table : ShapeTable) : List Shape :=
  table.names.filterMap table.lookup

/-- A template followed by any values, after the given roles. -/
def logging (lead : List Role)
    (valid : Overload.validate (lead ++ [.template, .values]) = .ok () := by rfl) : Overload :=
  ⟨lead ++ [.template, .values], valid⟩

/-- Methods named for a level, which take a template or an exception and a template. -/
def levelMethods : List Text :=
  ["Verbose", "Debug", "Information", "Warning", "Error", "Fatal"]

/-- Methods named for a level whose first argument may be the number of an event. The
overloads with a number come last, so that a text in front is the template. -/
def eventMethods : List Text :=
  ["LogTrace", "LogDebug", "LogInformation", "LogWarning", "LogError", "LogCritical"]

/-- The logging methods that are known without configuration. -/
def default : ShapeTable :=
  ofShapes <|
    levelMethods.map (fun name => { name, overloads := [logging [], logging [.exception]] }) ++
    [{ name := "Write", overloads := [logging [.other], logging [.other, .exception]] }] ++
    eventMethods.map (fun name =>
      { name, overloads := [logging [], logging [.exception], logging [.other],
          logging [.other, .exception]] }) ++
    [{ name := "Log", overloads := [logging [.other], logging [.other, .exception],
        logging [.other, .other], logging [.other, .other, .exception]] }]

end ShapeTable

end TemplateLint
