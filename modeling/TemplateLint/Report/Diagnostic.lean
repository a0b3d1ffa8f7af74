import TemplateLint.Report.Rule
import TemplateLint.Report.Span

/-!
# Diagnostics

A diagnostic names a rule, says what is wrong and where, and may carry the move
of an argument that mends the call.
-/

namespace TemplateLint

/-- Remove the argument at one index of the call and insert it at another. -/
structure Reorder where
  /-- Index of the argument to move. -/
  argument : Int
  /-- Index at which it is inserted after its removal. -/
  target : Int
  deriving DecidableEq

/-- One finding of the analysis. -/
structure Diagnostic where
  /-- The rule that is broken. -/
  rule : Rule
  /-- What is wrong. -/
  message : Text
  /-- Where it is wrong. -/
  span : Span := {}
  /-- How grave it is. -/
  severity : Severity := rule.severity
  /-- How the call is mended. -/
  fix : Option Reorder := none
  deriving DecidableEq

/-- The line that a report shows. -/
def Diagnostic.describe (d : Diagnostic) : Text :=
  d.span.location ++ ": " ++ d.severity.label ++ " " ++ d.rule.code ++ ": " ++ d.rule.lead ++
    d.message

end TemplateLint
