import TemplateLint.Text.Basic

/-!
# Failures

What stops a run, or makes it skip a piece of source: a reason code for programs,
a message for people, and the file or the text at fault where there is one.
-/

namespace TemplateLint

/-- A structured failure. -/
structure Failure where
  /-- Stable code of the reason. -/
  reason : Text
  /-- What went wrong. -/
  message : Text
  /-- File at fault. -/
  path : Option Text := none
  /-- Further detail. -/
  detail : Option Text := none
  deriving DecidableEq

/-- A part of a failure's line; an absent or empty text leaves no part. -/
def Failure.part (label : Text) : Option Text → Text
  | some (c :: text) => " " ++ label ++ "=" ++ (c :: text)
  | _ => []

/-- The line that reports the failure. -/
def Failure.describe (f : Failure) : Text :=
  "[" ++ f.reason ++ "] " ++ f.message ++ Failure.part "path" f.path ++
    Failure.part "detail" f.detail

end TemplateLint
