import TemplateLint.Json.Real
import TemplateLint.Text.Assoc
import TemplateLint.Text.Quoted

/-!
# JSON values

The values of configuration files and reports. Whole numbers and doubles are kept
apart, and the members of an object keep the order of their first appearance. A
value has two written forms: the compact ASCII form of reports and the form in
which error messages show it.
-/

namespace TemplateLint

/-- A JSON value. -/
inductive Json
  /-- The value without content. -/
  | null
  /-- A truth value. -/
  | bool (value : Bool)
  /-- A number written without point and exponent. -/
  | int (value : Int)
  /-- Any other number, as the bits of a double. -/
  | real (bits : UInt64)
  /-- A text. -/
  | string (value : Text)
  /-- A list of values. -/
  | array (items : List Json)
  /-- Named values. -/
  | object (members : List (Text × Json))

namespace Json

/-- How one code point stands in an ASCII string. -/
def asciiPoint (c : CodePoint) : Text :=
  if c = '"' ∨ c = '\\' then ['\\', c]
  else if c = '\n' then "\\n"
  else if c = '\r' then "\\r"
  else if c = '\t' then "\\t"
  else if c = '\x08' then "\\b"
  else if c = '\x0c' then "\\f"
  else if 0x20 ≤ c.val ∧ c.val ≤ 0x7E then [c]
  else if c.val ≤ 0xFFFF then "\\u" ++ Text.hexDigits 4 c.val
  else
    let n := c.val - 0x10000
    "\\u" ++ Text.hexDigits 4 (0xD800 + n / 1024) ++ "\\u" ++ Text.hexDigits 4 (0xDC00 + n % 1024)

/-- A text as an ASCII string. -/
def asciiString (t : Text) : Text :=
  "\"" ++ t.flatMap asciiPoint ++ "\""

/-- The compact ASCII form, with the members of objects in the order given. -/
def compact : Json → Text
  | .null => "null"
  | .bool true => "true"
  | .bool false => "false"
  | .int n => Text.ofInt n
  | .real bits => realText "Infinity" "NaN" bits
  | .string t => asciiString t
  | .array items =>
    "[" ++ Text.join "," (items.attach.map fun item => compact item.1) ++ "]"
  | .object members =>
    "\x7b" ++ Text.join "," (members.attach.map fun member =>
      asciiString member.1.1 ++ ":" ++ compact member.1.2) ++ "\x7d"
termination_by value => sizeOf value
decreasing_by
  · have := List.sizeOf_lt_of_mem item.2
    simp only [Json.array.sizeOf_spec]
    omega
  · have hmem := List.sizeOf_lt_of_mem member.2
    have : sizeOf member.1.2 < sizeOf member.1 := by
      cases member.1
      simp only [Prod.mk.sizeOf_spec]
      omega
    simp only [Json.object.sizeOf_spec]
    omega

/-- The form in which error messages show a value. -/
def display : Json → Text
  | .null => "None"
  | .bool true => "True"
  | .bool false => "False"
  | .int n => Text.ofInt n
  | .real bits => realText "inf" "nan" bits
  | .string t => t.quoted
  | .array items =>
    "[" ++ Text.join ", " (items.attach.map fun item => display item.1) ++ "]"
  | .object members =>
    "\x7b" ++ Text.join ", " (members.attach.map fun member =>
      member.1.1.quoted ++ ": " ++ display member.1.2) ++ "\x7d"
termination_by value => sizeOf value
decreasing_by
  · have := List.sizeOf_lt_of_mem item.2
    simp only [Json.array.sizeOf_spec]
    omega
  · have hmem := List.sizeOf_lt_of_mem member.2
    have : sizeOf member.1.2 < sizeOf member.1 := by
      cases member.1
      simp only [Prod.mk.sizeOf_spec]
      omega
    simp only [Json.object.sizeOf_spec]
    omega

/-- An object of a report, its members in the order of their names. -/
def record (members : List (Text × Json)) : Json :=
  .object (members.mergeSort fun a b => Text.le a.1 b.1)

/-- A text or nothing. -/
def ofText? : Option Text → Json
  | none => .null
  | some t => .string t

/-- A number or nothing. -/
def ofInt? : Option Int → Json
  | none => .null
  | some n => .int n

/-- The value of a member of an object. -/
def get? (value : Json) (name : Text) : Option Json :=
  match value with
  | .object members => Assoc.get? members name
  | _ => none

end Json

end TemplateLint
