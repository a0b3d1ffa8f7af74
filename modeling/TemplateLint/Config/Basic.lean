import TemplateLint.Method.Shape
import TemplateLint.Report.Rule

/-!
# Configuration

What the analysis of a source depends on: the shapes of logging methods, the types
that count as exceptions, the classes of extension methods and the rules that are
switched off.
-/

namespace TemplateLint

/-- Settings of the analysis. -/
structure Config where
  /-- Shapes of logging methods. -/
  shapes : ShapeTable := .default
  /-- Types that count as exceptions. -/
  exceptionTypes : List Text := ["Exception", "System.Exception"]
  /-- Classes of extension methods. -/
  extensionClasses : List Text := []
  /-- Rules that are switched off. -/
  disabledRules : List Rule := []
  /-- Whether templates have to be constants. -/
  requireConstant : Bool := true

namespace Config

/-- Whether a rule is switched on. -/
def isEnabled (config : Config) (rule : Rule) : Bool :=
  !config.disabledRules.contains rule

/-- The configuration with further shapes, classes and types. The shapes are registered in a copy
of the table. -/
def extend (config : Config) (shapes : List Shape) (extensionClasses exceptionTypes : List Text) :
    Config :=
  { config with
    shapes := config.shapes.copy.registerAll shapes
    extensionClasses := config.extensionClasses ++ extensionClasses
    exceptionTypes := config.exceptionTypes ++ exceptionTypes }

end Config

end TemplateLint
