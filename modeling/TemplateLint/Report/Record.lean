import TemplateLint.Json.Basic
import TemplateLint.Method.Shape
import TemplateLint.Report.Diagnostic
import TemplateLint.Report.Failure

/-!
# Records of reports

Diagnostics, failures and shapes as JSON objects, for programs that read the
output.
-/

namespace TemplateLint

/-- The record of a move. -/
def Reorder.record (fix : Reorder) : Json :=
  .record [("argument_index", .int fix.argument), ("insert_index", .int fix.target)]

/-- The members of the record of a diagnostic. -/
def Diagnostic.members (d : Diagnostic) : List (Text × Json) :=
  [("id", .string d.rule.name), ("code", .string d.rule.code),
    ("severity", .string d.severity.label), ("message", .string d.message),
    ("file", .ofText? d.span.file), ("line", .ofInt? d.span.line),
    ("column", .ofInt? d.span.column), ("length", .ofInt? d.span.length),
    ("fix", (d.fix.map Reorder.record).getD .null)]

/-- The record of a diagnostic. -/
def Diagnostic.record (d : Diagnostic) : Json :=
  .record d.members

/-- The record of a failure. -/
def Failure.record (f : Failure) : Json :=
  .record [("reason_code", .string f.reason), ("message", .string f.message),
    ("path", .ofText? f.path), ("detail", .ofText? f.detail)]

/-- The roles of an overload as a list of words. -/
def Role.list (roles : List Role) : Json :=
  .array (roles.map fun role => .string role.name)

/-- The record of a shape, without its name. -/
def Shape.record (shape : Shape) : Json :=
  .record [("overloads", .array (shape.overloads.map fun overload => Role.list overload.roles)),
    ("requires_constant", .bool shape.requiresConstant)]

/-- The record of a table: its shapes by name. -/
def ShapeTable.record (table : ShapeTable) : Json :=
  .object (table.sorted.map fun shape => (shape.name, shape.record))

end TemplateLint
