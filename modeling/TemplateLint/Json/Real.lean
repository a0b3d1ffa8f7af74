import TemplateLint.Text.Basic

/-!
# Decimal texts of doubles

A double is written with the fewest digits that read back as the same double and,
among these, the ones nearest to it. The double is taken as a whole number of
units, a power of two; the numbers that read back as it form an interval around
it, and every comparison is made in whole numbers.
-/

namespace TemplateLint.Json

/-- Two to the power of 52, the number of fractions of a double. -/
def fractionCount : Nat := 0x10000000000000

/-- A positive double `4 * mantissa * 2 ^ (power - 2)`, with the ends of the interval of
numbers that read back as it in the same unit. -/
structure Binary where
  /-- Lower end of the interval, in units. -/
  low : Nat
  /-- The number itself, in units. -/
  mid : Nat
  /-- Upper end of the interval, in units. -/
  high : Nat
  /-- The unit is two to this power. -/
  power : Int
  /-- Whether the ends read back as the number too. -/
  closed : Bool

/-- The finite, nonzero double with a given exponent field and fraction field. -/
def Binary.ofFields (exponent fraction : Nat) : Binary :=
  let mantissa := if exponent = 0 then fraction else fraction + fractionCount
  let power : Int := (max exponent 1 : Nat) - 1075
  { low := 4 * mantissa - (if fraction = 0 ∧ 1 < exponent then 1 else 2)
    mid := 4 * mantissa
    high := 4 * mantissa + 2
    power := power - 2
    closed := mantissa % 2 = 0 }

/-- Significant digits and the power of ten of the first one. -/
structure Decimal where
  /-- Digits without zeros at the end. -/
  digits : Text
  /-- Power of ten of the first digit. -/
  exponent : Int

/-- The integer power of a base as a numerator and a denominator. -/
def ratio (base : Nat) : Int → Nat × Nat
  | .ofNat n => (Nat.pow base n, 1)
  | .negSucc n => (1, Nat.pow base (n + 1))

/-- The greatest `exponent` from `guess` downwards with `10 ^ exponent * den ≤ num`. -/
def decimalExponent (num den : Nat) : (fuel : Nat) → (guess : Int) → Int
  | 0, guess => guess
  | fuel + 1, guess =>
    let scale := ratio 10 guess
    if scale.1 * den ≤ num * scale.2 then guess else decimalExponent num den fuel (guess - 1)

/-- The whole multiple of `10 ^ step` in the interval that is nearest to the number, among
its two neighbours. -/
def Binary.onGrid? (b : Binary) (step : Int) : Option Nat :=
  let unit := ratio 2 b.power
  let scale := ratio 10 step
  let weigh (n : Nat) : Nat := n * unit.1 * scale.2
  let grid (n : Nat) : Nat := n * scale.1 * unit.2
  let inside (n : Nat) : Bool :=
    if b.closed then decide (weigh b.low ≤ grid n ∧ grid n ≤ weigh b.high)
    else decide (weigh b.low < grid n ∧ grid n < weigh b.high)
  let below := weigh b.mid / (scale.1 * unit.2)
  let nearBelow := weigh b.mid - grid below
  let nearAbove := grid (below + 1) - weigh b.mid
  let order :=
    if nearBelow < nearAbove ∨ (nearBelow = nearAbove ∧ below % 2 = 0) then [below, below + 1]
    else [below + 1, below]
  order.find? fun n => decide (0 < n) && inside n

/-- The decimal with the fewest digits, from `count` up to `count + fuel`, that reads back. -/
def Binary.shortestFrom (b : Binary) (exponent : Int) : (fuel count : Nat) → Nat × Int
  | 0, _ => (0, 0)
  | fuel + 1, count =>
    let step := exponent - (count : Int) + 1
    match b.onGrid? step with
    | some n => (n, step)
    | none => shortestFrom b exponent fuel (count + 1)

/-- The shortest decimal that reads back. -/
def Binary.shortest (b : Binary) : Decimal :=
  let unit := ratio 2 b.power
  let exponent := decimalExponent (b.mid * unit.1) unit.2 700 330
  let found := b.shortestFrom exponent 17 1
  let all := Text.ofNat found.1
  let digits := (all.reverse.dropWhile fun (c : CodePoint) => decide (c = '0')).reverse
  { digits, exponent := found.2 + (all.length : Int) - 1 }

/-- A whole number with at least two digits. -/
def twoDigits (n : Nat) : Text :=
  if n < 10 then '0' :: Text.ofNat n else Text.ofNat n

/-- A decimal is written out for exponents from -4 to 15, with at least one digit after
the point, and in scientific form otherwise. -/
def Decimal.layout (d : Decimal) : Text :=
  let count := d.digits.length
  if d.exponent < -4 ∨ 15 < d.exponent then
    let fraction : Text := if count = 1 then [] else '.' :: d.digits.tail
    d.digits.take 1 ++ fraction ++ "e" ++
      (if d.exponent < 0 then Text.ofString "-" else "+") ++ twoDigits d.exponent.natAbs
  else if d.exponent < 0 then
    "0." ++ List.replicate (d.exponent.natAbs - 1) (CodePoint.ofChar '0') ++ d.digits
  else
    let whole := d.exponent.toNat + 1
    let fraction : Text := if count ≤ whole then "0" else d.digits.drop whole
    d.digits.take whole ++ List.replicate (whole - count) (CodePoint.ofChar '0') ++ "." ++ fraction

/-- How a double is written, with the given words for infinity and for no number. -/
def realText (infinity noNumber : Text) (bits : UInt64) : Text :=
  let n := bits.toNat
  let sign : Text := if n / fractionCount / 2048 = 1 then "-" else []
  let exponent := n / fractionCount % 2048
  let fraction := n % fractionCount
  if exponent = 2047 then (if fraction = 0 then sign ++ infinity else noNumber)
  else if exponent = 0 ∧ fraction = 0 then sign ++ "0.0"
  else sign ++ (Binary.ofFields exponent fraction).shortest.layout

/-- The double nearest to `mantissa * 10 ^ exponent`. Numbers far outside the range are
settled by their size. -/
def realOf (mantissa : Nat) (exponent : Int) : UInt64 :=
  let size := exponent + (Text.ofNat mantissa).length
  if mantissa = 0 ∨ size < -400 then 0
  else if 400 < size then 0x7FF0000000000000
  else (Float.ofScientific mantissa (exponent < 0) exponent.natAbs).toBits

end TemplateLint.Json
