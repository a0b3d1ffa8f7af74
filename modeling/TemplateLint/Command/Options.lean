import TemplateLint.Text.Quoted

/-!
# Command lines

A command line is a command with its options and paths. Options may be shortened as
long as they stay unique, may carry a value after an equals sign, and short ones may
be written together; everything after a double dash is a path. Paths stand in one
place: what is not taken there is left over, and left-over words are an error.
-/

namespace TemplateLint.Command

/-- What an option is for. -/
inductive OptionKey
  /-- Show the usage. -/
  | help
  /-- Name the configuration file. -/
  | config
  /-- Show the whole log. -/
  | verbose
  /-- Report as JSON. -/
  | json
  /-- Change no file. -/
  | checkOnly
  deriving DecidableEq

namespace OptionKey

/-- The names of an option as errors show them. -/
def label : OptionKey → Text
  | .help => "-h/--help"
  | .config => "--config"
  | .verbose => "--verbose/-v"
  | .json => "--json"
  | .checkOnly => "--check"

/-- Whether an option takes a value. -/
def takesValue (key : OptionKey) : Bool :=
  key = .config

end OptionKey

/-- What stands beside the options. -/
inductive Positional
  /-- Nothing. -/
  | none
  /-- One path or more. -/
  | paths
  /-- A command and everything that follows it. -/
  | command
  deriving DecidableEq

/-- The name of what has to stand beside the options. -/
def Positional.name : Positional → Text
  | .none => []
  | .paths => "paths"
  | .command => "cmd"

/-- The options that are understood in one place. -/
structure Grammar where
  /-- The words before the options, as errors show them. -/
  program : Text
  /-- Option names in the order in which they are tried. -/
  options : List (Text × OptionKey)
  /-- What stands beside the options. -/
  positional : Positional

/-- What is wrong with a command line. -/
inductive Misuse
  /-- A shortened option has several completions. -/
  | ambiguous (word : Text) (completions : List Text)
  /-- An option that takes no value is given one. -/
  | unwantedValue (key : OptionKey) (value : Text)
  /-- An option lacks its value. -/
  | missingValue (key : OptionKey)
  /-- There is no such command. -/
  | unknownCommand (name : Text)
  /-- What has to stand beside the options is missing. -/
  | missing (positional : Positional)
  /-- Words are left over. -/
  | leftOver (words : List Text)
  deriving DecidableEq

/-- Names of the commands. -/
def commandNames : List Text :=
  ["check", "fix", "shapes"]

/-- Wording of the misuse. -/
def Misuse.message : Misuse → Text
  | .ambiguous word completions =>
    "ambiguous option: " ++ word ++ " could match " ++ Text.join ", " completions
  | .unwantedValue key value =>
    "argument " ++ key.label ++ ": ignored explicit argument " ++ value.quoted
  | .missingValue key => "argument " ++ key.label ++ ": expected one argument"
  | .unknownCommand name =>
    "argument cmd: invalid choice: " ++ name.quoted ++ " (choose from " ++
      Text.join ", " (commandNames.map Text.quoted) ++ ")"
  | .missing positional => "the following arguments are required: " ++ positional.name
  | .leftOver words => "unrecognized arguments: " ++ Text.join " " words

/-- Why a command line gives no command. -/
inductive Stop
  /-- The usage is asked for. -/
  | help
  /-- The command line is wrong. -/
  | misuse (program : Text) (misuse : Misuse)
  deriving DecidableEq

/-- The line that reports a misuse. -/
def misuseLine (program : Text) (misuse : Misuse) : Text :=
  program ++ ": error: " ++ misuse.message

/-- A word that is read as an option. -/
structure OptionWord where
  /-- The option, if there is one of this name. -/
  key : Option OptionKey
  /-- Its full name. -/
  name : Text
  /-- The value inside the word. -/
  value : Option Text
  deriving DecidableEq

/-- A word of a command line. -/
inductive Word
  /-- The double dash. -/
  | divider
  /-- A path, a command or a value. -/
  | plain (text : Text)
  /-- An option. -/
  | option (reading : OptionWord) (text : Text)
  deriving DecidableEq

namespace Word

/-- The word as written. -/
def text : Word → Text
  | .divider => "--"
  | .plain text => text
  | .option _ text => text

/-- Whether the word is an option. -/
def isOption : Word → Bool
  | .option .. => true
  | _ => false

/-- Whether the word is plain. -/
def isPlain : Word → Bool
  | .plain _ => true
  | _ => false

end Word

/-- Whether a text is a minus sign and a number, perhaps before a line feed. -/
def isNegativeNumber (t : Text) : Bool :=
  let number := if t.getLast? = some (CodePoint.ofChar '\n') then t.dropLast else t
  match number with
  | [] => false
  | sign :: digits =>
    let whole := digits.takeWhile CodePoint.isDecimalDigit
    let rest := digits.drop whole.length
    decide (sign = '-') &&
      ((rest.isEmpty && !whole.isEmpty) ||
        (rest.head? = some (CodePoint.ofChar '.') && !rest.tail.isEmpty &&
          rest.tail.all CodePoint.isDecimalDigit))

/-- The readings of a word whose name is not complete. A word with two dashes may be
shortened; a word with one dash is an option of one letter followed by its value. -/
def completions (grammar : Grammar) (t : Text) : List OptionWord :=
  if Text.startsWith t "--" then
    let value := Text.after? '=' t
    (grammar.options.filter fun option => Text.startsWith option.1 (Text.before '=' t)).map
      fun option => ⟨some option.2, option.1, value⟩
  else
    grammar.options.filterMap fun option =>
      if option.1 = t.take 2 then some ⟨some option.2, option.1, some (t.drop 2)⟩
      else if Text.startsWith option.1 t then some ⟨some option.2, option.1, none⟩
      else none

/-- Read a word before the double dash. -/
def readWord (grammar : Grammar) (t : Text) : Except Stop Word :=
  if t.head? ≠ some (CodePoint.ofChar '-') then .ok (.plain t)
  else
    match grammar.options.find? fun option => decide (option.1 = t) with
    | some option => .ok (.option ⟨some option.2, t, none⟩ t)
    | none =>
      if t.length = 1 then .ok (.plain t)
      else
        let name := Text.before '=' t
        let value := Text.after? '=' t
        match (if value.isSome then grammar.options.find? fun option => decide (option.1 = name)
            else none) with
        | some option => .ok (.option ⟨some option.2, name, value⟩ t)
        | none =>
          match completions grammar t with
          | [reading] => .ok (.option reading t)
          | [] =>
            if isNegativeNumber t || t.contains (CodePoint.ofChar ' ') then .ok (.plain t)
            else .ok (.option ⟨none, t, none⟩ t)
          | several =>
            .error (.misuse grammar.program (.ambiguous t (several.map OptionWord.name)))

/-- Read the words of a command line. -/
def readWords (grammar : Grammar) : List Text → Except Stop (List Word)
  | [] => .ok []
  | t :: ts =>
    if t = "--" then .ok (.divider :: ts.map .plain)
    else do
      let word ← readWord grammar t
      let words ← readWords grammar ts
      return word :: words

/-- Which configuration is asked for. -/
inductive ConfigChoice
  /-- The file in the home folder, if there is one, and the defaults otherwise. -/
  | usual
  /-- The file at a path. -/
  | file (path : Text)
  /-- No file: a double dash as a value stands for no value. -/
  | nothing
  deriving DecidableEq

/-- The choice that the value of an option makes. -/
def ConfigChoice.ofValue (value : Text) : ConfigChoice :=
  if value = "--" then .nothing else .file value

/-- What the options and paths say. -/
structure Settings where
  /-- The configuration. -/
  config : ConfigChoice := .usual
  /-- Whether the whole log is shown. -/
  verbose : Bool := false
  /-- Whether the report is JSON. -/
  json : Bool := false
  /-- Whether files are left alone. -/
  checkOnly : Bool := false
  /-- What stands beside the options. -/
  positional : Option (List Text) := none
  /-- Words that are left over. -/
  leftOver : List Text := []
  deriving DecidableEq

/-- Take an option. -/
def Settings.take (settings : Settings) (key : OptionKey) (value : Text) : Except Stop Settings :=
  match key with
  | .help => .error .help
  | .config => .ok { settings with config := .ofValue value }
  | .verbose => .ok { settings with verbose := true }
  | .json => .ok { settings with json := true }
  | .checkOnly => .ok { settings with checkOnly := true }

/-- Options written in one word. -/
structure Cluster where
  /-- Options that are complete, with their values. -/
  taken : List (OptionKey × Text)
  /-- The last option, if it may take the next word. -/
  last : Option OptionKey

/-- The option of one letter that a code point names. -/
def shortOption? (grammar : Grammar) (c : CodePoint) : Option OptionKey :=
  (grammar.options.find? fun option => decide (option.1 = [CodePoint.ofChar '-', c])).map Prod.snd

/-- Read an option that carries a value inside its word. An option of one letter that takes
no value reads it as the letters of further options. -/
def readCluster (grammar : Grammar) (key : OptionKey) (isShort : Bool) (value : Text) :
    Except Stop Cluster :=
  if key.takesValue then .ok ⟨[(key, value)], none⟩
  else
    let refusal : Except Stop Cluster := .error (.misuse grammar.program (.unwantedValue key value))
    match value with
    | [] => refusal
    | c :: rest =>
      match if isShort then shortOption? grammar c else none with
      | none => refusal
      | some next =>
        if rest.isEmpty then .ok ⟨[(key, [])], some next⟩
        else
          (readCluster grammar next true rest).map fun more =>
            { more with taken := (key, []) :: more.taken }

/-- Number of words that the positional takes from the front. -/
def positionalCount (positional : Positional) (words : List Word) : Nat :=
  match positional with
  | .none => 0
  | .paths =>
    let run := words.takeWhile fun word => !word.isOption
    if run.any Word.isPlain then run.length else 0
  | .command =>
    match words.dropWhile fun word => decide (word = .divider) with
    | .plain _ :: _ => words.length
    | _ => 0

/-- The texts that the positional takes; paths drop the first double dash. -/
def positionalTexts (positional : Positional) (words : List Word) : List Text :=
  let texts := words.map Word.text
  if positional = .paths then texts.erase (Text.ofString "--") else texts

/-- Let the positional take words from the front, if it has taken none yet. -/
def takePositional (grammar : Grammar) (settings : Settings) (words : List Word) :
    Settings × Nat :=
  let count := if settings.positional.isSome then 0 else positionalCount grammar.positional words
  if count = 0 then (settings, 0)
  else
    ({ settings with positional := some (positionalTexts grammar.positional (words.take count)) },
      count)

/-- Take an option word; the result also says how many of the next words it takes. -/
def takeOption (grammar : Grammar) (settings : Settings) (reading : OptionWord) (text : Text)
    (next : List Word) : Except Stop (Settings × Nat) :=
  match reading.key with
  | none => .ok ({ settings with leftOver := settings.leftOver ++ [text] }, 0)
  | some key => do
    let cluster ←
      match reading.value with
      | some value => readCluster grammar key (!Text.startsWith reading.name "--") value
      | none => .ok ⟨[], some key⟩
    let (taken, count) ←
      match cluster.last with
      | none => .ok (cluster.taken, 0)
      | some last =>
        if last.takesValue then
          match next with
          | .plain value :: _ => .ok (cluster.taken ++ [(last, value)], 1)
          | _ => .error (.misuse grammar.program (.missingValue last))
        else .ok (cluster.taken ++ [(last, [])], 0)
    let settings ← taken.foldlM (fun settings option => settings.take option.1 option.2) settings
    return (settings, count)

/-- Take all words. The positional takes what it can when words that are no options come
up, and options are taken one by one. -/
def takeWords (grammar : Grammar) (settings : Settings) (words : List Word) :
    Except Stop Settings :=
  match words with
  | [] => .ok settings
  | word :: rest =>
    let next := takePositional grammar settings (word :: rest)
    match word, next.2 with
    | .option reading text, _ =>
      match takeOption grammar settings reading text rest with
      | .error stop => .error stop
      | .ok (settings, count) => takeWords grammar settings (rest.drop count)
    | _, 0 => takeWords grammar { settings with leftOver := settings.leftOver ++ [word.text] } rest
    | _, count + 1 => takeWords grammar next.1 (rest.drop count)
termination_by words.length
decreasing_by
  all_goals simp only [List.length_drop, List.length_cons]
  all_goals omega

/-- Read the words of one place: options, and what stands beside them. -/
def readSettings (grammar : Grammar) (args : List Text) : Except Stop Settings := do
  let words ← readWords grammar args
  let settings ← takeWords grammar {} words
  if settings.positional.isNone ∧ grammar.positional ≠ .none then
    throw (.misuse grammar.program (.missing grammar.positional))
  return settings

/-- Options that every command understands. -/
def sharedOptions : List (Text × OptionKey) :=
  [("-h", .help), ("--help", .help), ("--config", .config), ("--verbose", .verbose),
    ("-v", .verbose)]

/-- What the command `check` understands. -/
def checkGrammar : Grammar where
  program := "mtlint check"
  options := sharedOptions ++ [(Text.ofString "--json", .json)]
  positional := .paths

/-- What the command `fix` understands. -/
def fixGrammar : Grammar where
  program := "mtlint fix"
  options := sharedOptions ++ [(Text.ofString "--check", .checkOnly)]
  positional := .paths

/-- What the command `shapes` understands. -/
def shapesGrammar : Grammar where
  program := "mtlint shapes"
  options := sharedOptions ++ [(Text.ofString "--json", .json)]
  positional := .none

/-- The words in front of a command. -/
def outerGrammar : Grammar :=
  ⟨"mtlint", [("-h", .help), ("--help", .help)], .command⟩

/-- A command with its settings. -/
inductive Invocation
  /-- Report diagnostics. -/
  | check (config : ConfigChoice) (verbose json : Bool) (paths : List Text)
  /-- Move misplaced exceptions. -/
  | fix (config : ConfigChoice) (verbose checkOnly : Bool) (paths : List Text)
  /-- Show the shapes. -/
  | shapes (config : ConfigChoice) (verbose json : Bool)
  deriving DecidableEq

namespace Invocation

/-- The configuration that a command asks for. -/
def config : Invocation → ConfigChoice
  | .check config _ _ _ => config
  | .fix config _ _ _ => config
  | .shapes config _ _ => config

/-- The paths that a command names. -/
def paths : Invocation → List Text
  | .check _ _ _ paths => paths
  | .fix _ _ _ paths => paths
  | .shapes _ _ _ => []

end Invocation

/-- Read a command and the words that follow it; the result also says what is left over. -/
def readCommand (name : Text) (args : List Text) : Except Stop (Invocation × List Text) :=
  if name = "check" then do
    let s ← readSettings checkGrammar args
    return (.check s.config s.verbose s.json (s.positional.getD []), s.leftOver)
  else if name = "fix" then do
    let s ← readSettings fixGrammar args
    return (.fix s.config s.verbose s.checkOnly (s.positional.getD []), s.leftOver)
  else if name = "shapes" then do
    let s ← readSettings shapesGrammar args
    return (.shapes s.config s.verbose s.json, s.leftOver)
  else .error (.misuse outerGrammar.program (.unknownCommand name))

/-- Read a command line. -/
def Invocation.parse (args : List Text) : Except Stop Invocation := do
  let outer ← readSettings outerGrammar args
  match outer.positional with
  | some (name :: rest) =>
    let (invocation, leftOver) ← readCommand name rest
    let words := outer.leftOver ++ leftOver
    if words ≠ [] then throw (.misuse outerGrammar.program (.leftOver words))
    return invocation
  | _ => throw (.misuse outerGrammar.program (.missing .command))

end TemplateLint.Command
