import TemplateLint.Expr.Basic
import TemplateLint.Literal.Value

/-!
# Facts about expressions

What the analysis learns from an argument expression: the text that it denotes, if
it is a constant, and the type or the name from which the type follows.

An expression may be nested to any depth here. It is assumed that reading it and folding
it never meet the limit that a runtime sets to the depth of recursion; unlike the depth of
a JSON document, which has a limit of its own, that limit is not part of the program and
depends on where the call comes from.
-/

namespace TemplateLint

/-- What is known about an expression. -/
inductive Fact
  /-- A string literal with its value and its offset in the text. -/
  | literal (value : Text) (literal : Literal) (offset : Nat)
  /-- An interpolated string. -/
  | interpolated
  /-- A sum of texts, with its value if every term is a constant. -/
  | concat (value : Option Text)
  /-- A name. -/
  | name (symbol : Text)
  /-- A member access, with its dotted name if only names are accessed. -/
  | member (dotted : Option Text)
  /-- A call, with the name of the method. -/
  | invoke (callee : Option Text)
  /-- The creation of an object. -/
  | creation (typeName : Text)
  /-- A number. -/
  | number (isReal : Bool)
  /-- A character. -/
  | char
  /-- A truth value. -/
  | bool
  /-- The word `null`. -/
  | null
  /-- Anything else. -/
  | unknown
  deriving DecidableEq

namespace Fact

/-- The text that the expression denotes. -/
def constant : Fact → Option Text
  | .literal value _ _ => some value
  | .concat value => value
  | _ => none

/-- The literal that is the whole expression. -/
def literal? : Fact → Option Literal
  | .literal _ lit _ => some lit
  | _ => none

/-- Offset of that literal in the text of the expression. -/
def literalOffset : Fact → Nat
  | .literal _ _ offset => offset
  | _ => 0

/-- The type that the form of the expression tells. -/
def typeName : Fact → Option Text
  | .literal .. => some "string"
  | .interpolated => some "string"
  | .concat _ => some "string"
  | .creation typeName => some typeName
  | .number isReal => some (if isReal then "double" else "int")
  | .char => some "char"
  | .bool => some "bool"
  | _ => none

/-- The variable whose type decides the type. -/
def symbol : Fact → Option Text
  | .name symbol => some symbol
  | _ => none

/-- The method whose return type decides the type. -/
def callee : Fact → Option Text
  | .invoke callee => callee
  | _ => none

/-- The dotted name of a member access. -/
def dotted : Fact → Option Text
  | .member dotted => dotted
  | _ => none

/-- The fact about a sum. -/
def ofTerms (terms : List Fact) : Fact :=
  match terms.mapM constant with
  | some values => .concat (some values.flatten)
  | none =>
    if terms.any fun term => decide (term.typeName = some (Text.ofString "string")) then
      .concat none
    else .unknown

end Fact

namespace Expr

/-- The dotted name of an access that goes through names only. -/
def dotted? : Expr → Option Text
  | .name text => some text
  | .member target part => (dotted? target).map fun head => head ++ "." ++ part
  | _ => none

/-- The name of the method that a call target denotes. -/
def callee? : Expr → Option Text
  | .name text => some text
  | .member _ part => some part
  | _ => none

mutual

/-- What is known about an expression. A malformed literal is refused. -/
def fact : Expr → Except Failure Fact
  | .labelled _ value => fact value
  | .literal lit offset => do
    let value ← Literal.decode lit.source
    return .literal value lit offset
  | .interpolated => .ok .interpolated
  | .sum terms => do
    let found ← facts terms
    return Fact.ofTerms found
  | .name text => .ok (.name text)
  | .member target part => .ok (.member (dotted? (.member target part)))
  | .invoke target _ => .ok (.invoke (callee? target))
  | .create typeName _ => .ok (.creation (Text.join "." typeName))
  | .number isReal => .ok (.number isReal)
  | .char => .ok .char
  | .bool _ => .ok .bool
  | .null => .ok .null
  | .index _ _ => .ok .unknown

/-- What is known about the terms of a sum. -/
def facts : List Expr → Except Failure (List Fact)
  | [] => .ok []
  | term :: terms => do
    let first ← fact term
    let others ← facts terms
    return first :: others

end

end Expr

/-- What is known about an argument from its text. -/
def Fact.ofText (t : Text) : Except Failure Fact :=
  match Expr.ofText? t with
  | none => .ok .unknown
  | some value => value.fact

end TemplateLint
