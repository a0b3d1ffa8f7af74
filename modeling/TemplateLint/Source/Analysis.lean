import TemplateLint.Source.Call

/-!
# Analysis of a source

The calls of a source with their diagnostics, without the rules that are switched
off. The analysis stops at the first call whose template holds a number that is too
long to be converted; what was noted up to there is kept.
-/

namespace TemplateLint.Source

/-- What an analysis notes, and how it ends. -/
structure Analysis (α : Type) where
  /-- What is noted on the way. -/
  entries : List LogEntry
  /-- The result, unless a number stops the analysis. -/
  result : Except Text.Oversized α

/-- The diagnostics of a call for rules that are switched on. -/
def callDiagnostics (source : Prepared) (scanned : ScannedCall) :
    Except Text.Oversized (List Diagnostic) :=
  (scanned.call.analyze source.config.shapes).map fun found =>
    found.filter fun d => source.config.isEnabled d.rule

/-- Analyze calls in order. -/
def analyzeNotes (source : Prepared) :
    List CallNote → Analysis (List (ScannedCall × List Diagnostic))
  | [] => ⟨[], .ok []⟩
  | note :: notes =>
    match note with
    | .call _ scanned =>
      match callDiagnostics source scanned with
      | .error numeral => ⟨[note.entry], .error numeral⟩
      | .ok found =>
        let rest := analyzeNotes source notes
        ⟨note.entry :: rest.entries, rest.result.map ((scanned, found) :: ·)⟩
    | _ =>
      let rest := analyzeNotes source notes
      ⟨note.entry :: rest.entries, rest.result⟩

/-- The calls of a source with their diagnostics. -/
def callsWithDiagnostics (source : Prepared) : Analysis (List (ScannedCall × List Diagnostic)) :=
  let found := analyzeNotes source (callNotes source)
  ⟨source.entries ++ found.entries, found.result⟩

/-- The diagnostics of a source. -/
def analyze (text : Text) (config : Config) (file : Option Text) : Analysis (List Diagnostic) :=
  let found := callsWithDiagnostics (prepare text config file)
  ⟨found.entries, found.result.map fun calls => calls.flatMap Prod.snd⟩

end TemplateLint.Source
