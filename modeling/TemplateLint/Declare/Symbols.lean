import TemplateLint.Declare.Class
import TemplateLint.Expr.Fact
import TemplateLint.Report.Log
import TemplateLint.Source.Mask
import TemplateLint.Text.Assoc

/-!
# Symbols of a source

One flat table for a whole source: the types of variables, the return types of
methods, the values of constants and the classes. A later declaration of a name
replaces an earlier one.
-/

namespace TemplateLint.Declare

open Source

/-- What the declarations of a source tell. -/
structure Symbols where
  /-- Types of variables. -/
  typed : Assoc Text := []
  /-- Methods whose results variables hold. -/
  called : Assoc Text := []
  /-- Return types of methods. -/
  returns : Assoc Text := []
  /-- Values of constants. -/
  constants : Assoc Text := []
  /-- Classes in order. -/
  classes : List ClassDecl := []
  /-- Types that count as exceptions. -/
  exceptionTypes : List Text := ["Exception"]

/-- A name without the `@` in front. -/
def unescaped (name : Text) : Text :=
  if name.head? = some (CodePoint.ofChar '@') then name.tail else name

/-- The last part of a type name, without type arguments, array brackets and question
mark. -/
def simpleName (typeName : Text) : Text :=
  Text.afterLast '.' (Text.trim (typeName.takeWhile fun (c : CodePoint) =>
    decide (c ≠ '<' ∧ c ≠ '[' ∧ c ≠ '?')))

/-- The bases of the first class with a given name. -/
def basesOf (classes : List ClassDecl) (name : Text) : List Text :=
  match classes.find? fun decl => decide (decl.name = name) with
  | some decl => decl.bases
  | none => []

/-- Whether a type is an exception type by its own name. -/
def isExceptionName (types : List Text) (typeName : Text) : Bool :=
  types.contains typeName || types.contains (simpleName typeName) ||
    Text.endsWith (simpleName typeName) "Exception"

/-- Number of bases of the classes whose name has not been met. -/
def openBases (met : List Text) : List ClassDecl → Nat
  | [] => 0
  | decl :: rest => (if decl.name ∈ met then 0 else decl.bases.length) + openBases met rest

/-- A class in front hides later ones of its name. -/
theorem basesOf_cons (decl : ClassDecl) (classes : List ClassDecl) (name : Text) :
    basesOf (decl :: classes) name =
      if decl.name = name then decl.bases else basesOf classes name := by
  unfold basesOf
  rw [List.find?_cons]
  by_cases hname : decl.name = name
  · rw [if_pos hname, decide_eq_true hname]
  · rw [if_neg hname, decide_eq_false hname]

/-- Meeting a name takes the bases of its class from the open ones. -/
theorem basesOf_add_openBases_le (classes : List ClassDecl) {met : List Text} {name : Text}
    (hmet : name ∉ met) :
    (basesOf classes name).length + openBases (name :: met) classes ≤ openBases met classes := by
  induction classes with
  | nil => exact Nat.le_refl 0
  | cons decl rest ih =>
    rw [openBases, openBases, basesOf_cons]
    by_cases hname : decl.name = name
    · rw [if_pos hname, hname, if_pos List.mem_cons_self, if_neg hmet]
      omega
    · have hiff : decl.name ∈ name :: met ↔ decl.name ∈ met := by
        rw [List.mem_cons, or_iff_right hname]
      simp only [if_neg hname, hiff]
      omega

/-- Whether one of the pending types, or a base of one, is an exception type. Types are
taken from the front, the bases of a type are put there with the last one first, and a
type whose simple name was met before is passed over. -/
def reachesException (classes : List ClassDecl) (types : List Text) (met pending : List Text) :
    Bool :=
  match pending with
  | [] => false
  | current :: rest =>
    if simpleName current ∈ met then reachesException classes types met rest
    else if isExceptionName types current then true
    else
      reachesException classes types (simpleName current :: met)
        ((basesOf classes (simpleName current)).reverse ++ rest)
termination_by openBases met classes + pending.length
decreasing_by
  · simp only [List.length_cons]
    omega
  · next hmet _ =>
    have hopen := basesOf_add_openBases_le classes hmet
    simp only [List.length_append, List.length_reverse, List.length_cons]
    omega

namespace Symbols

/-- The type of a variable. -/
def variableType (symbols : Symbols) (name : Text) : Option Text :=
  let name := unescaped name
  match symbols.typed.get? name with
  | some typeName => some typeName
  | none => (symbols.called.get? name).bind symbols.returns.get?

/-- The type that a method returns. -/
def returnType (symbols : Symbols) (method : Text) : Option Text :=
  symbols.returns.get? (unescaped method)

/-- The value of a constant, found by the last part of its name. -/
def constantValue (symbols : Symbols) (name : Text) : Option Text :=
  symbols.constants.get? (unescaped (Text.afterLast '.' name))

/-- Whether a type is an exception type or derives from one in this source. -/
def isException (symbols : Symbols) (typeName : Option Text) : Bool :=
  match typeName with
  | none => false
  | some [] => false
  | some name => reachesException symbols.classes symbols.exceptionTypes [] [name]

/-- The innermost class whose body contains an offset. -/
def enclosingClass (symbols : Symbols) (offset : Int) : Option ClassDecl :=
  symbols.classes.foldl (fun best decl =>
    if (decl.bodyStart : Int) ≤ offset ∧ offset ≤ decl.bodyEnd then
      match best with
      | none => some decl
      | some inner => if inner.bodyStart < decl.bodyStart then some decl else best
    else best) none

end Symbols

/-- What becomes of a declared constant. -/
inductive ConstantNote
  /-- The constant has a value. -/
  | accepted (name : Text) (line : Nat) (value : Text)
  /-- The constant holds a malformed literal. -/
  | malformed (name : Text) (line : Nat) (failure : Failure)

namespace ConstantNote

/-- The log entry of a constant. -/
def entry : ConstantNote → LogEntry
  | .accepted name line _ =>
    ⟨.debug, "Found string constant " ++ name ++ " at line " ++ Text.ofNat line⟩
  | .malformed name line failure =>
    ⟨.warning, "Ignoring constant " ++ name ++ " at line " ++ Text.ofNat line ++ ": " ++
      failure.describe⟩

/-- The known constants after this one. -/
def extend (known : Assoc Text) : ConstantNote → Assoc Text
  | .accepted name _ value => known.insert name value
  | .malformed .. => known

end ConstantNote

/-- Read a constant up to the next semicolon. Its value is a constant text, or the value of
a constant declared earlier. -/
def readConstant? (text masked : Text) (known : Assoc Text) (found : Occurrence Typed) :
    Option ConstantNote := do
  guard (simpleName found.value.typeName ∈ [Text.ofString "string", Text.ofString "String"])
  let stop ← masked.indexFrom? ';' found.stop
  let name := found.value.name
  let line := (text.take found.start).count (CodePoint.ofChar '\n') + 1
  match Fact.ofText (text.slice found.stop stop) with
  | .error failure => return .malformed name line failure
  | .ok fact =>
    let value ← fact.constant.or (fact.symbol.bind known.get?)
    return .accepted name line value

/-- What becomes of the constants, where some are already known. -/
def constantNotes (text masked : Text) (known : Assoc Text) :
    List (Occurrence Typed) → List ConstantNote
  | [] => []
  | found :: rest =>
    match readConstant? text masked known found with
    | none => constantNotes text masked known rest
    | some note => note :: constantNotes text masked (note.extend known) rest

/-- What becomes of every constant of a source. -/
def allConstantNotes (text masked : Text) : List ConstantNote :=
  constantNotes text masked [] (occurrences constant masked)

/-- Return types of methods. -/
def returnTypes (masked : Text) : Assoc Text :=
  (occurrences methodHead masked).foldl (fun table (found : Occurrence Typed) =>
    if found.value.typeName ∈ keywords ∨ found.value.name ∈ keywords then table
    else table.insert found.value.name found.value.typeName) []

/-- Types of variables: those declared with a type, those caught, those that hold a new
object and those that hold a literal. -/
def variableTypes (masked : Text) : Assoc Text :=
  let typed := (occurrences typedVariable masked).foldl (fun table (found : Occurrence Typed) =>
    if found.value.typeName ∈ keywords ∨ found.value.typeName = "var" ∨
        found.value.name ∈ keywords then table
    else Assoc.insert table found.value.name found.value.typeName) []
  let withCaught := (occurrences caught masked).foldl (fun table found =>
    Assoc.insert table found.value.name found.value.typeName) typed
  let withCreated := (occurrences createdVariable masked).foldl (fun table found =>
    Assoc.insert table found.value.1 found.value.2) withCaught
  (occurrences textVariable masked).foldl (fun table found =>
    Assoc.insert table found.value "string") withCreated

/-- Methods whose results are held by variables of no other type. -/
def variableCalls (masked : Text) (typed : Assoc Text) : Assoc Text :=
  (occurrences calledVariable masked).foldl (fun table (found : Occurrence (Text × Text)) =>
    if found.value.2 = "new" ∨ (typed.get? found.value.1).isSome then table
    else table.insert found.value.1 found.value.2) []

/-- The symbols of a source. -/
def symbols (text masked : Text) (exceptionTypes : List Text) : Symbols :=
  let typed := variableTypes masked
  { typed
    called := variableCalls masked typed
    returns := returnTypes masked
    constants := (allConstantNotes text masked).foldl ConstantNote.extend []
    classes := classes masked
    exceptionTypes := "Exception" :: exceptionTypes }

end TemplateLint.Declare
