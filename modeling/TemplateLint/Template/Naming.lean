import TemplateLint.Report.Diagnostic
import TemplateLint.Template.Segment

/-!
# Names of properties

The names of named properties differ from each other and do not start with a
small letter. Positional properties have no name to check.
-/

namespace TemplateLint.Template

/-- The diagnostic of a name that an earlier property has. -/
def duplicateAt (name : Text) (span : Span) : Diagnostic :=
  { rule := .duplicateName
    message := "Property name '" ++ name ++ "' is not unique in this MessageTemplate"
    span }

/-- The diagnostic of a name that starts with a small letter. -/
def smallLetterAt (name : Text) (span : Span) : Diagnostic :=
  { rule := .nonPascalCase
    message := "Property name '" ++ name ++ "' should be pascal case"
    span }

/-- Whether a name starts with a small letter. -/
def startsSmall (name : Text) : Bool :=
  name.head?.any CodePoint.isAsciiLower

/-- Check the named properties in order, where the names in `seen` come earlier. -/
def checkNames (locate : Span → Span) (seen : List Text) : List Property → List Diagnostic
  | [] => []
  | hole :: rest =>
    let span := locate hole.span
    (if hole.name ∈ seen then [duplicateAt hole.name span] else []) ++
      (if startsSmall hole.name then [smallLetterAt hole.name span] else []) ++
      checkNames locate (hole.name :: seen) rest

/-- Every fault of the names in a template. -/
def naming (segments : List Segment) (locate : Span → Span) : List Diagnostic :=
  checkNames locate [] ((properties segments).filter fun hole => !hole.isPositional)

end TemplateLint.Template
