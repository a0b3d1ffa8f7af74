import TemplateLint.Config.Basic
import TemplateLint.Declare.Marked
import TemplateLint.Report.Span

/-!
# Prepared source

Everything that is known about a source before its calls are looked at: its masked
form, its symbols, and the configuration extended by its marked methods.
-/

namespace TemplateLint.Source

/-- A source with what its declarations tell. -/
structure Prepared where
  /-- The source itself. -/
  text : Text
  /-- The source with comments and the contents of literals blanked out. -/
  masked : Text
  /-- What the declarations tell. -/
  symbols : Declare.Symbols
  /-- The configuration with the marked methods of this source. -/
  config : Config
  /-- The line starts. -/
  index : LineIndex
  /-- Name of the file. -/
  file : Option Text
  /-- What was noted on the way. -/
  entries : List LogEntry

/-- Mask a source, collect its symbols and extend the configuration. -/
def prepare (text : Text) (config : Config) (file : Option Text) : Prepared :=
  let masked := mask text
  let symbols := Declare.symbols text masked config.exceptionTypes
  let notes := Declare.markNotes text masked symbols
  { text, masked, symbols
    config := config.extend (Declare.markedShapes config.requireConstant notes)
      (Declare.extensionClasses notes) []
    index := LineIndex.ofText text
    file
    entries := (Declare.allConstantNotes text masked).map Declare.ConstantNote.entry ++
      Declare.markEntries [] notes }

/-- The span of a range of the source. -/
def Prepared.span (source : Prepared) (range : Range) : Span :=
  source.index.span range.start (range.stop - range.start : Nat) source.file

end TemplateLint.Source
