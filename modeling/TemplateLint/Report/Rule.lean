import TemplateLint.Text.Case
import TemplateLint.Text.Quoted

/-!
# Rules

The six rules of the analysis with their stable names, codes, severities and
titles.
-/

namespace TemplateLint

/-- How grave a diagnostic is. -/
inductive Severity
  /-- The call is wrong. -/
  | error
  /-- The call is doubtful. -/
  | warning
  /-- A grade of the caller's own. -/
  | custom (label : Text)
  deriving DecidableEq

/-- The word that a report shows. -/
def Severity.label : Severity → Text
  | .error => "error"
  | .warning => "warning"
  | .custom label => label

/-- The severity with a given word. -/
def Severity.ofLabel (label : Text) : Severity :=
  if label = "error" then .error
  else if label = "warning" then .warning
  else .custom label

/-- What a diagnostic complains about. -/
inductive Rule
  /-- An exception is passed as a value. -/
  | exceptionNotFirst
  /-- The template is malformed. -/
  | parseError
  /-- Properties and values do not correspond. -/
  | bindError
  /-- The template is not a constant. -/
  | nonConstantTemplate
  /-- Two properties share a name. -/
  | duplicateName
  /-- A property name starts with a small letter. -/
  | nonPascalCase
  deriving DecidableEq

namespace Rule

/-- Every rule, by code. -/
def all : List Rule :=
  [.exceptionNotFirst, .parseError, .bindError, .nonConstantTemplate, .duplicateName,
    .nonPascalCase]

/-- Symbolic name. -/
def name : Rule → Text
  | .exceptionNotFirst => "EXCEPTION_NOT_FIRST"
  | .parseError => "PARSE_ERROR"
  | .bindError => "BIND_ERROR"
  | .nonConstantTemplate => "NON_CONSTANT_TEMPLATE"
  | .duplicateName => "DUPLICATE_NAME"
  | .nonPascalCase => "NON_PASCAL_CASE"

/-- Short code. -/
def code : Rule → Text
  | .exceptionNotFirst => "MTL001"
  | .parseError => "MTL002"
  | .bindError => "MTL003"
  | .nonConstantTemplate => "MTL004"
  | .duplicateName => "MTL005"
  | .nonPascalCase => "MTL006"

/-- Severity unless a diagnostic says otherwise. -/
def severity : Rule → Severity
  | .exceptionNotFirst => .warning
  | .parseError => .error
  | .bindError => .error
  | .nonConstantTemplate => .warning
  | .duplicateName => .error
  | .nonPascalCase => .warning

/-- One-line description. -/
def title : Rule → Text
  | .exceptionNotFirst => "Exception not passed as first argument"
  | .parseError => "Error while parsing MessageTemplate"
  | .bindError => "Error while binding properties"
  | .nonConstantTemplate => "MessageTemplate argument is not constant"
  | .duplicateName => "Property name is not unique"
  | .nonPascalCase => "Property name should be pascal case"

/-- Words that a report puts in front of the message. -/
def lead : Rule → Text
  | .parseError => "Error while parsing MessageTemplate: "
  | .bindError => "Error while binding properties: "
  | _ => []

/-- A text that names no rule; `key` is the text as it was looked up. -/
structure Unknown where
  /-- The text without outer blanks, in upper case. -/
  key : Text
  deriving DecidableEq

/-- Wording of the error. -/
def Unknown.message (e : Unknown) : Text :=
  e.key.quoted ++ " is not a valid DiagnosticId"

/-- The rule with a given name, or with a given code in either case. -/
def parse (text : Text) : Except Unknown Rule :=
  let key := text.trim
  match all.find? fun rule => rule.name = key with
  | some rule => .ok rule
  | none =>
    match all.find? fun rule => rule.code = key.upper with
    | some rule => .ok rule
    | none => .error ⟨key.upper⟩

end Rule

end TemplateLint
