import TemplateLint.Text.Case
import TemplateLint.Text.Quoted

/-!
# Overloads

An overload lists what each parameter of a logging method is for. It has exactly
one template; a receiver comes first, exceptions and other parameters come before
the template, values after it, and a parameter that takes all remaining values
comes last.
-/

namespace TemplateLint

/-- What a parameter is for. -/
inductive Role
  /-- The object on which an extension method is called. -/
  | receiver
  /-- Something that the analysis does not look at. -/
  | other
  /-- An exception. -/
  | exception
  /-- The message template. -/
  | template
  /-- One value of a property. -/
  | value
  /-- All remaining values. -/
  | values
  deriving DecidableEq

namespace Role

/-- Every role. -/
def all : List Role :=
  [.receiver, .other, .exception, .template, .value, .values]

/-- The word for a role. -/
def name : Role → Text
  | .receiver => "receiver"
  | .other => "other"
  | .exception => "exception"
  | .template => "template"
  | .value => "value"
  | .values => "values"

/-- A text that names no role; `key` is the text as it was looked up. -/
structure Unknown where
  /-- The text without outer blanks, in lower case. -/
  key : Text
  deriving DecidableEq

/-- Wording of the error. -/
def Unknown.message (e : Unknown) : Text :=
  e.key.quoted ++ " is not a valid ParamRole"

/-- The role with a given name, in either case and between blanks. -/
def parse (text : Text) : Except Unknown Role :=
  let key := text.trim.lower
  match all.find? fun role => role.name = key with
  | some role => .ok role
  | none => .error ⟨key⟩

end Role

namespace Overload

/-- Why a list of roles is not an overload. -/
inductive Fault
  /-- There is no template, or more than one. -/
  | templateCount
  /-- A receiver does not come first. -/
  | receiverNotFirst
  /-- A role that comes before the template stands after it. -/
  | afterTemplate (role : Role)
  /-- A role that comes after the template stands before it. -/
  | beforeTemplate (role : Role)
  /-- Something follows the remaining values. -/
  | valuesNotLast
  deriving DecidableEq

/-- Wording of the fault. -/
def Fault.message : Fault → Text
  | .templateCount => "an overload needs exactly one template parameter"
  | .receiverNotFirst => "the receiver parameter must come first"
  | .afterTemplate role => role.name ++ " parameter must precede the template"
  | .beforeTemplate role => role.name ++ " parameter must follow the template"
  | .valuesNotLast => "the values parameter must be last"

/-- Check one role at a position of a list of `count` roles whose template stands at
`templateAt`. -/
def checkRole (templateAt count position : Nat) : Role → Except Fault Unit
  | .receiver => if position = 0 then .ok () else .error .receiverNotFirst
  | .exception => if templateAt < position then .error (.afterTemplate .exception) else .ok ()
  | .other => if templateAt < position then .error (.afterTemplate .other) else .ok ()
  | .template => .ok ()
  | .value => if position < templateAt then .error (.beforeTemplate .value) else .ok ()
  | .values =>
    if position < templateAt then .error (.beforeTemplate .values)
    else if position + 1 = count then .ok ()
    else .error .valuesNotLast

/-- Check the roles from a position on. -/
def checkRoles (templateAt count position : Nat) : List Role → Except Fault Unit
  | [] => .ok ()
  | role :: rest =>
    match checkRole templateAt count position role with
    | .error fault => .error fault
    | .ok () => checkRoles templateAt count (position + 1) rest

/-- Check that a list of roles is an overload. -/
def validate (roles : List Role) : Except Fault Unit :=
  if roles.count .template = 1 then checkRoles (roles.idxOf .template) roles.length 0 roles
  else .error .templateCount

end Overload

/-- The roles of the parameters of one overload. -/
structure Overload where
  /-- The roles in order. -/
  roles : List Role
  /-- The roles are well placed. -/
  valid : Overload.validate roles = .ok () := by rfl
  deriving DecidableEq

/-- The overload with given roles. -/
def Overload.ofRoles (roles : List Role) : Except Overload.Fault Overload :=
  match h : Overload.validate roles with
  | .ok () => .ok ⟨roles, h⟩
  | .error fault => .error fault

end TemplateLint
