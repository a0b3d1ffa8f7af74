import TemplateLint.Literal.Basic

/-!
# Call sites

A call site is a method name and the arguments of the call, each with what the
source tells about it.
-/

namespace TemplateLint

/-- One argument of a call. -/
structure Argument where
  /-- Source text. -/
  text : Text
  /-- Place of the argument, or of its only literal. -/
  span : Span := {}
  /-- Whether its type is an exception type. -/
  isException : Bool := false
  /-- Its value, if it is a constant text. -/
  constant : Option Text := none
  /-- The literal that is its whole value. -/
  literal : Option Literal := none
  /-- Its type, if known. -/
  typeName : Option Text := none
  deriving DecidableEq

/-- One call of a method. -/
structure CallSite where
  /-- Name of the method. -/
  method : Text
  /-- Arguments in order. -/
  arguments : List Argument
  /-- Whether the receiver of an extension method is passed as the first argument. -/
  explicitReceiver : Bool := false
  /-- Place of the call. -/
  span : Span := {}
  deriving DecidableEq

namespace Argument

/-- Expressions that denote the empty text. -/
def emptyTexts : List Text :=
  ["String.Empty", "string.Empty", "System.String.Empty"]

/-- Types of texts. -/
def textTypes : List Text :=
  ["string", "String", "System.String"]

/-- The value of the argument as a template. -/
def template? (arg : Argument) : Option Text :=
  match arg.constant with
  | some value => some value
  | none => if Text.trim arg.text ∈ emptyTexts then some [] else none

/-- Whether the argument can stand for a template. -/
def mayBeTemplate (arg : Argument) : Bool :=
  !arg.isException &&
    (arg.constant.isSome ||
      match arg.typeName with
      | none => true
      | some typeName => decide (typeName ∈ textTypes))

/-- Whether nothing tells the type of the argument. -/
def isUntyped (arg : Argument) : Bool :=
  arg.typeName.isNone && arg.constant.isNone && !arg.isException

/-- A range of the template as a place in the file: inside the literal, if the
argument is one, and the whole argument otherwise. -/
def locate (arg : Argument) (span : Span) : Span :=
  match arg.literal, span.offset with
  | some lit, some offset =>
    let range := lit.mapRange offset (span.length.getD 0)
    lit.spanIn arg.span range.1 range.2
  | _, _ => arg.span

end Argument

end TemplateLint
