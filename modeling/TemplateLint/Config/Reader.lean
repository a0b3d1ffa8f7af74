import TemplateLint.Config.Basic
import TemplateLint.Json.Basic
import TemplateLint.Report.Failure
import TemplateLint.Report.Log

/-!
# Reading a configuration

A configuration is a JSON object with six optional members. Members are checked in
a fixed order, and the first fault is reported; methods are checked in the order in
which the object lists them.

A value that stands for a role is shown as a text to any depth here. It is assumed that this
never meets the limit that a runtime sets to the depth of recursion: a document with such a
value is refused before, since arrays and objects may lie inside each other only up to
`Json.depthLimit`.
-/

namespace TemplateLint.Config

/-- What is wrong with a configuration. -/
inductive Fault
  /-- The value is not an object. -/
  | notObject
  /-- There are members of other names, given in increasing order. -/
  | unknownKeys (keys : List Text)
  /-- A switch is not a truth value. -/
  | notBoolean
  /-- The methods are not an object. -/
  | methodsNotObject
  /-- A method has no list of overloads, or an empty one. -/
  | noOverloads (method : Text)
  /-- An overload is not a list. -/
  | overloadNotList (method : Text)
  /-- An overload holds something that is not a role. -/
  | unknownRole (method : Text) (overload : List Json)
  /-- An overload is not well formed. -/
  | badOverload (method : Text) (fault : Overload.Fault)
  /-- A member is not a list of nonempty texts. -/
  | notTextList (key : Text)
  /-- A rule that is switched off does not exist. -/
  | unknownRule

/-- Wording of the fault. -/
def Fault.message : Fault → Text
  | .notObject => "configuration root must be a JSON object"
  | .unknownKeys keys => "unknown configuration key(s): " ++ Text.join ", " keys
  | .notBoolean =>
    "'require_constant_template' and 'replace_default_methods' must be booleans"
  | .methodsNotObject => "'methods' must be an object mapping method names to overload lists"
  | .noOverloads method => "method '" ++ method ++ "' needs a non-empty list of overloads"
  | .overloadNotList method => "overload of '" ++ method ++ "' must be a list of roles"
  | .unknownRole method overload =>
    "unknown parameter role in '" ++ method ++ "': " ++ (Json.array overload).display
  | .badOverload method fault => "method '" ++ method ++ "': " ++ fault.message
  | .notTextList key => "'" ++ key ++ "' must be a list of non-empty strings"
  | .unknownRule => "'disabled_rules' contains an unknown rule id"

/-- The failure of a configuration read from a file. -/
def Fault.failure (fault : Fault) (path : Option Text) : Failure :=
  { reason := "config-invalid", message := fault.message, path }

/-- Names of the members. -/
def knownKeys : List Text :=
  ["methods", "replace_default_methods", "exception_types", "extension_classes",
    "disabled_rules", "require_constant_template"]

/-- A member that has to be a truth value. -/
def readSwitch (members : Assoc Json) (key : Text) (absent : Bool) : Except Fault Bool :=
  match members.get? key with
  | none => .ok absent
  | some (.bool value) => .ok value
  | some _ => .error .notBoolean

/-- The text of a value that is a nonempty text. -/
def nonemptyText? : Json → Option Text
  | .string (c :: rest) => some (c :: rest)
  | _ => none

/-- A member that has to be a list of nonempty texts. -/
def readTexts (members : Assoc Json) (key : Text) : Except Fault (List Text) :=
  match members.get? key with
  | none => .ok []
  | some (.array items) =>
    match items.mapM nonemptyText? with
    | some texts => .ok texts
    | none => .error (.notTextList key)
  | some _ => .error (.notTextList key)

/-- The text in which a role is sought: a text itself, and any other value as messages
show it. -/
def roleText : Json → Text
  | .string text => text
  | value => value.display

/-- The role that a value names. -/
def role? (value : Json) : Option Role :=
  (Role.parse (roleText value)).toOption

/-- Read the roles of one overload. -/
def readRoles (method : Text) : Json → Except Fault (List Role)
  | .array items =>
    match items.mapM role? with
    | some roles => .ok roles
    | none => .error (.unknownRole method items)
  | _ => .error (.overloadNotList method)

/-- Read the shape of one method. All roles are read before the overloads are checked. -/
def readMethod (requiresConstant : Bool) (name : Text) : Json → Except Fault Shape
  | .array (first :: others) => do
    let lists ← (first :: others).mapM (readRoles name)
    let overloads ← lists.mapM fun roles => (Overload.ofRoles roles).mapError (.badOverload name)
    return { name, overloads, requiresConstant }
  | _ => .error (.noOverloads name)

/-- Read the shapes of the methods. -/
def readMethods (requiresConstant : Bool) : Option Json → Except Fault (List Shape)
  | none => .ok []
  | some (.object members) =>
    members.mapM fun member => readMethod requiresConstant member.1 member.2
  | some _ => .error .methodsNotObject

/-- Read the rules that are switched off. -/
def readRules (members : Assoc Json) : Except Fault (List Rule) := do
  let texts ← readTexts members "disabled_rules"
  match texts.mapM fun text => (Rule.parse text).toOption with
  | some rules => return rules
  | none => throw .unknownRule

/-- The known methods, with the given requirement on their templates. -/
def defaultShapes (requiresConstant : Bool) : ShapeTable where
  shapes := ShapeTable.default.shapes.map fun shape => { shape with requiresConstant }
  distinct := by
    rw [List.map_map]
    exact ShapeTable.default.distinct

/-- The first stage: everything that decides the shapes. -/
structure Draft where
  /-- The members of the configuration. -/
  members : Assoc Json
  /-- Whether templates have to be constants. -/
  requireConstant : Bool
  /-- Whether the known methods are left out. -/
  replaceDefaults : Bool
  /-- The shapes of the configured methods. -/
  added : List Shape

/-- Read the first stage. -/
def readDraft : Json → Except Fault Draft
  | .object members => do
    let unknown := Text.sortUnique ((Assoc.keys members).filter fun key => !knownKeys.contains key)
    if unknown ≠ [] then throw (.unknownKeys unknown)
    let requireConstant ← readSwitch members "require_constant_template" true
    let replaceDefaults ← readSwitch members "replace_default_methods" false
    let added ← readMethods requireConstant (Assoc.get? members "methods")
    return { members, requireConstant, replaceDefaults, added }
  | _ => .error .notObject

/-- The note on the configured methods. -/
def Draft.entries (draft : Draft) : List LogEntry :=
  if draft.added.isEmpty then []
  else [⟨.debug, "Configuration adds " ++ Text.ofNat draft.added.length ++ " method shape(s)"⟩]

/-- Read the second stage. -/
def Draft.finish (draft : Draft) : Except Fault Config := do
  let disabledRules ← readRules draft.members
  let exceptionTypes ← readTexts draft.members "exception_types"
  let extensionClasses ← readTexts draft.members "extension_classes"
  let start :=
    if draft.replaceDefaults then ShapeTable.empty else defaultShapes draft.requireConstant
  return {
    shapes := start.registerAll draft.added
    exceptionTypes := ({} : Config).exceptionTypes ++ exceptionTypes
    extensionClasses
    disabledRules
    requireConstant := draft.requireConstant }

/-- The configuration that a JSON value describes. -/
def ofJson (value : Json) : Except Fault Config := do
  (← readDraft value).finish

end TemplateLint.Config
