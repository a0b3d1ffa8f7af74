import TemplateLint.Text.Basic

/-!
# Log entries

What a run notes on its way, each entry with a level. Warnings are always shown,
the rest on request.
-/

namespace TemplateLint

/-- How important a log entry is. -/
inductive LogLevel
  /-- Details of the search. -/
  | debug
  /-- Steps of the run. -/
  | info
  /-- Something that is skipped or missing. -/
  | warning
  deriving DecidableEq

/-- The word that a log line starts with. -/
def LogLevel.label : LogLevel → Text
  | .debug => "DEBUG"
  | .info => "INFO"
  | .warning => "WARNING"

/-- One note of a run. -/
structure LogEntry where
  /-- How important it is. -/
  level : LogLevel
  /-- What is noted. -/
  message : Text
  deriving DecidableEq

namespace LogEntry

/-- Whether the entry is shown. -/
def isShown (verbose : Bool) (entry : LogEntry) : Bool :=
  verbose || entry.level = .warning

/-- The line of the entry. -/
def line (entry : LogEntry) : Text :=
  entry.level.label ++ ": " ++ entry.message ++ "\n"

/-- The lines of the entries that are shown. -/
def render (verbose : Bool) (entries : List LogEntry) : Text :=
  (entries.filter (isShown verbose)).flatMap line

end LogEntry

end TemplateLint
