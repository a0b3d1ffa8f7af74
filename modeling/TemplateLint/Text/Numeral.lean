import TemplateLint.Text.Basic

/-!
# Numerals

Sequences of decimal digits are converted to numbers up to a fixed length, in
which leading zeros count. A longer sequence is refused, whatever its value.
-/

namespace TemplateLint.Text

/-- The largest number of digits that is converted to a number. -/
def digitLimit : Nat := 4300

/-- A sequence of digits that is too long to be converted. -/
structure Oversized where
  /-- Length of the sequence. -/
  digits : Nat
  deriving DecidableEq

/-- Wording of the refusal. -/
def Oversized.message (e : Oversized) : Text :=
  "Exceeds the limit (" ++ ofNat digitLimit ++
    " digits) for integer string conversion: value has " ++ ofNat e.digits ++
    " digits; use sys.set_int_max_str_digits() to increase the limit"

/-- The number that a sequence of digits writes. -/
def readNumeral (digits : Text) : Except Oversized Nat :=
  if digitLimit < digits.length then .error ⟨digits.length⟩ else .ok (decimalValue digits)

end TemplateLint.Text
