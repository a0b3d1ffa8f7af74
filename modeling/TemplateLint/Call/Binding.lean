import TemplateLint.Call.Site
import TemplateLint.Method.Shape

/-!
# Matching calls with overloads

A call is matched with the first overload that it fits and that puts a constant
text in the place of the template; for this an argument of unknown type may be an
exception. If there is none, the first overload that the call fits strictly is
taken.
-/

namespace TemplateLint

/-- A call read through one overload. -/
structure Binding where
  /-- Roles of the overload, without the receiver unless it is passed. -/
  roles : List Role
  /-- Index of the template. -/
  templateIndex : Nat
  /-- Indices of the values. -/
  valueIndices : List Nat
  /-- Index of the exception, if the overload has one. -/
  exceptionIndex : Option Nat
  deriving DecidableEq

namespace CallSite

/-- The roles that the arguments of the call have to fill. An overload without a
receiver is no candidate for a call that passes one. -/
def rolesFor (call : CallSite) (overload : Overload) : Option (List Role) :=
  if overload.roles.head? = some .receiver then
    some (if call.explicitReceiver then overload.roles else overload.roles.tail)
  else if call.explicitReceiver then none
  else some overload.roles

/-- The role lists to try, in order. -/
def candidates (call : CallSite) (shape : Shape) : List (List Role) :=
  shape.overloads.filterMap call.rolesFor

end CallSite

/-- Whether an argument can fill a role. An argument of unknown type may be an
exception only if `lenient`. -/
def Role.accepts (lenient : Bool) (role : Role) (arg : Argument) : Bool :=
  match role with
  | .exception => arg.isException || (lenient && arg.isUntyped)
  | .template => arg.mayBeTemplate
  | _ => true

/-- Whether arguments fill a list of roles. -/
def fits (lenient : Bool) (roles : List Role) (args : List Argument) : Bool :=
  let variadic : Bool := roles.getLast? = some .values
  let fixed := if variadic then roles.dropLast else roles
  (if variadic then decide (fixed.length ≤ args.length) else decide (args.length = fixed.length)) &&
    (fixed.zip args).all fun pair => pair.1.accepts lenient pair.2

/-- The argument in the place of the template. -/
def templateArgument? (roles : List Role) (args : List Argument) : Option Argument :=
  args[roles.idxOf .template]?

/-- Whether the place of the template holds a constant text. -/
def hasConstantTemplate (roles : List Role) (args : List Argument) : Bool :=
  ((templateArgument? roles args).bind Argument.template?).isSome

/-- The reading of a call through a list of roles. -/
def Binding.ofRoles (roles : List Role) (args : List Argument) : Binding :=
  let templateIndex := roles.idxOf .template
  { roles, templateIndex
    valueIndices := (List.range args.length).drop (templateIndex + 1)
    exceptionIndex := if .exception ∈ roles then some (roles.idxOf .exception) else none }

/-- The roles through which a call is read. -/
def CallSite.choose? (call : CallSite) (shape : Shape) : Option (List Role) :=
  let candidates := call.candidates shape
  (candidates.find? fun roles =>
      fits true roles call.arguments && hasConstantTemplate roles call.arguments).or
    (candidates.find? fun roles => fits false roles call.arguments)

/-- The reading of a call through the overloads of a shape. -/
def CallSite.match? (call : CallSite) (shape : Shape) : Option Binding :=
  (call.choose? shape).map fun roles => Binding.ofRoles roles call.arguments

end TemplateLint
