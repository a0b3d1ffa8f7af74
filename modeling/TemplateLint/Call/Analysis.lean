import TemplateLint.Call.Binding
import TemplateLint.Template.Binding
import TemplateLint.Template.Naming
import TemplateLint.Template.Parser

/-!
# Analysis of calls

The diagnostics of one call: those of its template, of the binding of its values
and of the names of its properties, and one for every exception that is passed as
a value. The analysis gives no answer only where the template holds a number that
is too long to be converted.
-/

namespace TemplateLint

/-- The diagnostic of a template that is not a constant. -/
def nonConstant (template : Argument) : Diagnostic :=
  { rule := .nonConstantTemplate
    message := "MessageTemplate argument " ++ template.text ++ " is not constant"
    span := template.span }

/-- The diagnostic of an exception among the values, which belongs at `target`. -/
def misplacedException (arg : Argument) (index target : Int) : Diagnostic :=
  { rule := .exceptionNotFirst
    message := "The exception '" ++ arg.text ++ "' should be passed as first argument"
    span := arg.span
    fix := some ⟨index, target⟩ }

/-- The diagnostics of a constant template with its values. -/
def templateDiagnostics (template : Argument) (value : Text) (values : List Argument) :
    Except Text.Oversized (List Diagnostic) :=
  match Template.parse value with
  | .error (.oversized numeral) => .error numeral
  | .error (.malformed fault) =>
    .ok [{ rule := .parseError, message := fault.cause.message
           span := template.locate fault.span }]
  | .ok segments =>
    .ok (Template.bind segments (values.map Argument.span) template.locate ++
      Template.naming segments template.locate)

/-- The diagnostics of the exceptions among the values, whose indices in the call are
given. -/
def exceptionDiagnostics (values : List Argument) (indices : List Int) (target : Int) :
    List Diagnostic :=
  ((indices.zip values).filter fun pair => pair.2.isException).map fun pair =>
    misplacedException pair.2 pair.1 target

/-- The diagnostics of a call whose template and values are known. A constant is
required unless a shape says otherwise. -/
def analyzeParts (template : Argument) (values : List Argument) (shape : Option Shape)
    (indices : List Int) (target : Int) : Except Text.Oversized (List Diagnostic) := do
  let found ←
    match template.template? with
    | some value => templateDiagnostics template value values
    | none => .ok (if shape.all Shape.requiresConstant then [nonConstant template] else [])
  return found ++ exceptionDiagnostics values indices target

/-- The diagnostics of a call. A method without a shape and a call that fits no
overload have none. -/
def CallSite.analyze (call : CallSite) (table : ShapeTable) :
    Except Text.Oversized (List Diagnostic) :=
  match table.lookup call.method with
  | none => .ok []
  | some shape =>
    match call.match? shape with
    | none => .ok []
    | some binding =>
      match call.arguments[binding.templateIndex]? with
      | none => .ok []
      | some template =>
        analyzeParts template (binding.valueIndices.filterMap (call.arguments[·]?)) (some shape)
          (binding.valueIndices.map Int.ofNat) binding.templateIndex

end TemplateLint
