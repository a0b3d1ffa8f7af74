import TemplateLint.Declare.Parameter
import TemplateLint.Declare.Symbols
import TemplateLint.Method.Shape
import TemplateLint.Text.Position

/-!
# Marked methods

A method marked as a logging method by an attribute that names its template
parameter contributes one overload to the shape of its name. A class that holds a
marked extension method is an extension class: its methods may be called with the
receiver as the first argument.
-/

namespace TemplateLint.Declare

open Source

/-- The role of a parameter at a position, where the template stands at `templateAt`. -/
def roleOf (symbols : Symbols) (templateAt position : Nat) (parameter : Parameter) : Role :=
  if position = templateAt then .template
  else if position = 0 ∧ Text.ofString "this" ∈ parameter.modifiers then .receiver
  else if position < templateAt then
    if symbols.isException (some parameter.typeName) then .exception else .other
  else if Text.ofString "params" ∈ parameter.modifiers then .values
  else .value

/-- The roles of parameters, if one of them has the name of the template. -/
def rolesOf? (symbols : Symbols) (parameters : List Parameter) (template : Text) :
    Option (List Role) :=
  let templateAt := parameters.findIdx fun parameter => decide (parameter.name = template)
  if templateAt < parameters.length then
    some (parameters.zipIdx.map fun entry => roleOf symbols templateAt entry.2 entry.1)
  else none

/-- What becomes of a marked method. -/
inductive MarkNote
  /-- No parameter has the name given by the mark. -/
  | missing (parameter method : Text) (line : Int)
  /-- The parameters form no overload. -/
  | invalid (method : Text) (line : Int) (fault : Overload.Fault)
  /-- The method has an overload; an extension method may lie in a class. -/
  | found (method : Text) (line : Int) (overload : Overload) (extended : Option Text)

/-- Read the method marked by an attribute. Nothing is noted unless the attribute, the head
of a method after it and its parameters are complete. -/
def readMark? (text masked : Text) (symbols : Symbols) (index : LineIndex)
    (mark : Occurrence Unit) : Option MarkNote := do
  let close ← masked.indexFrom? '"' mark.stop
  let attributeEnd ← findClosing masked mark.start
  let template := text.slice mark.stop close
  let head ← firstAfter? methodHead masked (attributeEnd + 1)
  let method := head.value.name
  let line := (index.locate head.value.nameAt).line
  let parametersEnd ← findClosing masked (head.stop - 1)
  let parameters := (splitTopLevel masked head.stop parametersEnd).filterMap fun range =>
    Parameter.parse? (range.of text)
  match rolesOf? symbols parameters template with
  | none => return .missing template method line
  | some roles =>
    match Overload.ofRoles roles with
    | .error fault => return .invalid method line fault
    | .ok overload =>
      let extended :=
        if roles.head? = some .receiver then (symbols.enclosingClass head.start).map ClassDecl.name
        else none
      return .found method line overload extended

/-- What becomes of every marked method of a source. -/
def markNotes (text masked : Text) (symbols : Symbols) : List MarkNote :=
  let index := LineIndex.ofText text
  (occurrences markAttribute masked).filterMap (readMark? text masked symbols index)

/-- The shapes of the marked methods, in the order of their first mark. -/
def markedShapes (requiresConstant : Bool) (notes : List MarkNote) : List Shape :=
  (ShapeTable.ofShapes (notes.filterMap fun
    | .found name _ overload _ => some { name, overloads := [overload], requiresConstant }
    | _ => none)).shapes

/-- The classes that hold marked extension methods, in the order of their first mark. -/
def extensionClasses (notes : List MarkNote) : List Text :=
  (notes.filterMap fun
    | .found _ _ _ extended => extended
    | _ => none).eraseDups

/-- The log entries of one note, where some extension classes are already known. -/
def MarkNote.entries (known : List Text) : MarkNote → List LogEntry
  | .missing parameter method line =>
    [⟨.warning, "Template parameter '" ++ parameter ++ "' not found in " ++ method ++
      " at line " ++ Text.ofInt line ++ "; skipping"⟩]
  | .invalid method line fault =>
    [⟨.warning, "Ignoring " ++ method ++ " at line " ++ Text.ofInt line ++ ": " ++ fault.message⟩]
  | .found method line overload extended =>
    ⟨.debug, "Found template method " ++ method ++ "(" ++
      Text.join ", " (overload.roles.map Role.name) ++ ") at line " ++ Text.ofInt line⟩ ::
    (extended.toList.filter fun name => !known.contains name).map fun name =>
      ⟨.debug, "Found extension class " ++ name⟩

/-- The log entries of the marked methods. -/
def markEntries (known : List Text) : List MarkNote → List LogEntry
  | [] => []
  | note :: notes =>
    note.entries known ++ markEntries (extensionClasses [note] ++ known) notes

end TemplateLint.Declare
