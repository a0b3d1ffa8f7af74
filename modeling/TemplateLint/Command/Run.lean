import TemplateLint.Command.FileTree
import TemplateLint.Command.Options
import TemplateLint.Config.Reader
import TemplateLint.Json.Reader
import TemplateLint.Report.Record
import TemplateLint.Source.Edit
import TemplateLint.Text.Utf8

/-!
# Runs

A run of the program as a function: from a file tree and a command line to the texts
that are shown, the exit code and the new file tree. Only the command `fix` changes
files, and only those that the command line selects.
-/

namespace TemplateLint.Command

/-- The state of a run. -/
structure Session where
  /-- The files as they are now. -/
  tree : FileTree
  /-- What is shown as output. -/
  stdout : Text := []
  /-- What is shown as errors and log. -/
  stderr : Text := []

/-- What ends a run without an exit code of its own. -/
inductive Crash
  /-- A number is too long to be converted. -/
  | oversized (numeral : Text.Oversized)
  /-- A configuration file is not UTF-8. -/
  | encoding (error : Text.Utf8Error)
  /-- The name of a configuration file holds a null character. -/
  | nullByte
  /-- A configuration is asked for without a file. -/
  | noConfigFile
  /-- A configuration file has too many values inside each other. -/
  | tooDeep (fault : Json.TooDeep)
  /-- A path to source files cannot be looked up. -/
  | access (error : AccessError) (path : Text)
  deriving DecidableEq

/-- Wording of the crash. -/
def Crash.message : Crash → Text
  | .oversized numeral => numeral.message
  | .encoding error => error.message
  | .nullByte => "embedded null byte"
  | .noConfigFile => "'list' object has no attribute 'read_text'"
  | .tooDeep fault => fault.message
  | .access error path => error.message path

/-- What stops a step of a run. -/
inductive Halt
  /-- A failure that is reported. -/
  | failure (failure : Failure)
  /-- A crash. -/
  | crash (crash : Crash)

/-- How a run ends. -/
inductive Ending
  /-- With an exit code. -/
  | exit (code : Nat)
  /-- With a crash. -/
  | crash (crash : Crash)
  deriving DecidableEq

/-- Lines with a line feed after each. -/
def asLines (lines : List Text) : Text :=
  lines.flatMap fun line => line ++ [CodePoint.ofChar '\n']

namespace Session

/-- Show log entries. -/
def log (session : Session) (verbose : Bool) (entries : List LogEntry) : Session :=
  { session with stderr := session.stderr ++ LogEntry.render verbose entries }

/-- Show output lines. -/
def print (session : Session) (lines : List Text) : Session :=
  { session with stdout := session.stdout ++ asLines lines }

/-- Show error lines. -/
def complain (session : Session) (lines : List Text) : Session :=
  { session with stderr := session.stderr ++ asLines lines }

/-- End a run after a halt. -/
def halt (session : Session) : Halt → Session × Ending
  | .failure failure => (session.complain [failure.describe], .exit 2)
  | .crash crash => (session, .crash crash)

end Session

/-- Line ends of every kind become line feeds. -/
def unifyLineEnds : Text → Text
  | [] => []
  | [c] => if c = '\r' then ['\n'] else [c]
  | c :: d :: rest =>
    if c = '\r' then
      if d = '\n' then '\n' :: unifyLineEnds rest else '\n' :: unifyLineEnds (d :: rest)
    else c :: unifyLineEnds (d :: rest)

/-- Name of the configuration file in the home folder. -/
def configName : Text := "mtlint.json"

/-- The failure of a configuration file that cannot be opened. -/
def unreadableConfig (path : Text) (error : AccessError) : Failure :=
  { reason := "config-unreadable", message := "cannot read configuration file", path := some path
    detail := some (error.message path) }

/-- The bytes of a configuration file. -/
def configBytes (tree : FileTree) (path : Path) : Except Halt (List UInt8) :=
  if CodePoint.ofChar '\x00' ∈ path.text then .error (.crash .nullByte)
  else
    match tree.resolve path with
    | .ok (.file _ bytes) => .ok bytes
    | .ok (.folder _) => .error (.failure (unreadableConfig path.text .isFolder))
    | .error error => .error (.failure (unreadableConfig path.text error))

/-- Read the configuration that the bytes of a file describe. The notes are kept when the
reading fails. -/
def readConfig (path : Text) (bytes : List UInt8) : List LogEntry × Except Halt Config :=
  match Text.decodeUtf8 bytes with
  | .error error => ([], .error (.crash (.encoding error)))
  | .ok decoded =>
    let document := unifyLineEnds decoded
    match Json.parse document with
    | .error (.oversized numeral) => ([], .error (.crash (.oversized numeral)))
    | .error (.tooDeep fault) => ([], .error (.crash (.tooDeep fault)))
    | .error (.malformed cause offset) =>
      ([], .error (.failure
        { reason := "config-invalid", message := "configuration is not valid JSON"
          path := some path, detail := some (Json.faultMessage document cause offset) }))
    | .ok value =>
      match Config.readDraft value with
      | .error fault => ([], .error (.failure (fault.failure (some path))))
      | .ok draft =>
        match draft.finish with
        | .error fault => (draft.entries, .error (.failure (fault.failure (some path))))
        | .ok config =>
          (draft.entries ++ [⟨.info, "Loaded configuration from " ++ path⟩], .ok config)

/-- The configuration of a run: the file named on the command line, else the file in the
home folder, whose absolute path starts with `homeText`, else the defaults. -/
def loadConfig (tree : FileTree) (homeText : Text) (choice : ConfigChoice) :
    List LogEntry × Except Halt Config :=
  match choice with
  | .nothing => ([], .error (.crash .noConfigFile))
  | .file text =>
    let path := Path.ofText text
    match configBytes tree path with
    | .error halt => ([], .error halt)
    | .ok bytes => readConfig path.text bytes
  | .usual =>
    match tree.file? (tree.home ++ [configName]) with
    | some bytes => readConfig ((Path.ofText homeText).append [configName]).text bytes
    | none =>
      ([⟨.debug, "No configuration file found, using built-in method shapes"⟩], .ok {})

/-- A source file that the command line selects. -/
structure Selected where
  /-- The path that is shown. -/
  path : Text
  /-- Where the file lies. -/
  location : Location
  deriving DecidableEq

/-- The source files that one path selects. -/
def selectPath (tree : FileTree) (text : Text) : Except Halt (List Selected) :=
  let path := Path.ofText text
  match tree.resolve path with
  | .ok (.file location _) => .ok [⟨path.text, location⟩]
  | .ok (.folder folder) =>
    .ok ((tree.sourcesUnder folder).map fun names =>
      ⟨(path.append names).text, folder ++ names⟩)
  | .error .tooLong => .error (.crash (.access .tooLong path.text))
  | .error _ =>
    .error (.failure { reason := "path-missing", message := "no such file or directory"
                       path := some path.text })

/-- The source files that the paths of a command line select, in order. -/
def select (tree : FileTree) (paths : List Text) : Except Halt (List Selected) :=
  (paths.mapM (selectPath tree)).map List.flatten

/-- The note on a command line that selects no file. -/
def selectionEntries (files : List Selected) : List LogEntry :=
  if files.isEmpty then [⟨.warning, "No .cs files found under the given paths"⟩] else []

/-- A source text and whether a byte order mark precedes it. -/
structure SourceText where
  /-- The text without the mark. -/
  text : Text
  /-- Whether there is a mark. -/
  hasMark : Bool
  deriving DecidableEq

/-- The byte order mark. -/
def byteOrderMark : CodePoint := '\uFEFF'

/-- Take the byte order mark off a text. -/
def SourceText.ofText (t : Text) : SourceText :=
  if t.head? = some byteOrderMark then ⟨t.tail, true⟩ else ⟨t, false⟩

/-- The bytes of a source text. -/
def SourceText.bytes (source : SourceText) : List UInt8 :=
  Text.encodeUtf8 (if source.hasMark then byteOrderMark :: source.text else source.text)

/-- Read a source file. -/
def readSource (tree : FileTree) (file : Selected) : Except Failure SourceText :=
  match Text.decodeUtf8 ((tree.file? file.location).getD []) with
  | .ok t => .ok (.ofText t)
  | .error error =>
    .error { reason := "source-unreadable", message := "source file is not UTF-8"
             path := some file.path, detail := some error.message }

/-- The note at the start of a file. -/
def scanningEntry (file : Selected) : LogEntry :=
  ⟨.info, "Scanning " ++ file.path⟩

/-- Collect the diagnostics of files. -/
def checkFiles (verbose : Bool) (config : Config) (session : Session) :
    List Selected → Session × Except Halt (List Diagnostic)
  | [] => (session, .ok [])
  | file :: files =>
    let session := session.log verbose [scanningEntry file]
    match readSource session.tree file with
    | .error failure => (session, .error (.failure failure))
    | .ok source =>
      let analysis := Source.analyze source.text config (some file.path)
      let session := session.log verbose analysis.entries
      match analysis.result with
      | .error numeral => (session, .error (.crash (.oversized numeral)))
      | .ok found =>
        let session := session.log verbose
          [⟨.info, file.path ++ ": " ++ Text.ofNat found.length ++ " diagnostic(s)"⟩]
        let rest := checkFiles verbose config session files
        (rest.1, rest.2.map (found ++ ·))

/-- Number of diagnostics of a severity. -/
def countSeverity (severity : Severity) (found : List Diagnostic) : Nat :=
  found.countP fun d => decide (d.severity = severity)

/-- The record of a whole check. -/
def checkRecord (fileCount : Nat) (found : List Diagnostic) : Json :=
  .record [("diagnostics", .array (found.map Diagnostic.record)),
    ("errors", .int (countSeverity .error found)), ("files", .int fileCount),
    ("ok", .bool (countSeverity .error found = 0)),
    ("warnings", .int (countSeverity .warning found))]

/-- The last line of a check. -/
def checkSummary (fileCount : Nat) (found : List Diagnostic) : Text :=
  "mtlint: files=" ++ Text.ofNat fileCount ++ " errors=" ++
    Text.ofNat (countSeverity .error found) ++ " warnings=" ++
    Text.ofNat (countSeverity .warning found)

/-- Report the diagnostics of a check. The summary goes to the errors if there are any. -/
def reportCheck (json : Bool) (fileCount : Nat) (found : List Diagnostic) (session : Session) :
    Session × Ending :=
  let code := if countSeverity .error found = 0 then 0 else 1
  if json then (session.print [(checkRecord fileCount found).compact], .exit code)
  else
    let session := session.print (found.map Diagnostic.describe)
    let summary := checkSummary fileCount found
    (if code = 0 then session.print [summary] else session.complain [summary], .exit code)

/-- Check the selected files. -/
def check (verbose json : Bool) (config : Config) (paths : List Text) (session : Session) :
    Session × Ending :=
  match select session.tree paths with
  | .error halt => session.halt halt
  | .ok files =>
    let session := session.log verbose (selectionEntries files)
    match checkFiles verbose config session files with
    | (session, .error halt) => session.halt halt
    | (session, .ok found) => reportCheck json files.length found session

/-- Write the new text of a file that has fixes, or tell how many there are. -/
def finishFix (verbose checkOnly : Bool) (file : Selected) (source : SourceText) (fixed : Text)
    (count : Nat) (session : Session) : Session :=
  if count = 0 then session
  else if checkOnly then
    session.print [file.path ++ ": " ++ Text.ofNat count ++ " fix(es) would apply"]
  else
    let tree := session.tree.write file.location { source with text := fixed }.bytes
    { session with tree }.log verbose
      [⟨.info, "Applied " ++ Text.ofNat count ++ " fix(es) to " ++ file.path⟩]

/-- Fix files one after the other and count the fixes. -/
def fixFiles (verbose checkOnly : Bool) (config : Config) (session : Session) :
    List Selected → Session × Except Halt Nat
  | [] => (session, .ok 0)
  | file :: files =>
    let session := session.log verbose [scanningEntry file]
    match readSource session.tree file with
    | .error failure => (session, .error (.failure failure))
    | .ok source =>
      let analysis := Source.applyFixes source.text config (some file.path)
      let session := session.log verbose analysis.entries
      match analysis.result with
      | .error numeral => (session, .error (.crash (.oversized numeral)))
      | .ok (fixed, count) =>
        let session := finishFix verbose checkOnly file source fixed count session
        let rest := fixFiles verbose checkOnly config session files
        (rest.1, rest.2.map (count + ·))

/-- Fix the selected files. -/
def fix (verbose checkOnly : Bool) (config : Config) (paths : List Text) (session : Session) :
    Session × Ending :=
  match select session.tree paths with
  | .error halt => session.halt halt
  | .ok files =>
    let session := session.log verbose (selectionEntries files)
    match fixFiles verbose checkOnly config session files with
    | (session, .error halt) => session.halt halt
    | (session, .ok count) => (session, .exit (if checkOnly ∧ count ≠ 0 then 1 else 0))

/-- The line of a shape. -/
def shapeLine (shape : Shape) : Text :=
  shape.name ++ ": " ++ Text.join " | " (shape.overloads.map fun overload =>
    "(" ++ Text.join ", " (overload.roles.map Role.name) ++ ")")

/-- The record of the shapes and extension classes. -/
def shapesRecord (config : Config) : Json :=
  .record [("extension_classes",
      .array ((Text.sortUnique config.extensionClasses).map .string)),
    ("methods", config.shapes.record)]

/-- Show the shapes. -/
def showShapes (json : Bool) (config : Config) (session : Session) : Session × Ending :=
  (session.print (if json then [(shapesRecord config).compact]
    else config.shapes.sorted.map shapeLine), .exit 0)

/-- Load the configuration and go on with it. -/
def withConfig (homeText : Text) (choice : ConfigChoice) (verbose : Bool) (session : Session)
    (next : Config → Session → Session × Ending) : Session × Ending :=
  match loadConfig session.tree homeText choice with
  | (entries, .error halt) => (session.log verbose entries).halt halt
  | (entries, .ok config) => next config (session.log verbose entries)

/-- Carry out a command. -/
def Invocation.run (homeText : Text) (tree : FileTree) : Invocation → Session × Ending
  | .check config verbose json paths =>
    withConfig homeText config verbose { tree } fun config =>
      Command.check verbose json config paths
  | .fix config verbose checkOnly paths =>
    withConfig homeText config verbose { tree } fun config =>
      Command.fix verbose checkOnly config paths
  | .shapes config verbose json =>
    withConfig homeText config verbose { tree } fun config => showShapes json config

end TemplateLint.Command
