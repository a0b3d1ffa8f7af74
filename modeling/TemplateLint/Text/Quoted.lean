import TemplateLint.Text.Basic

/-!
# Quoted texts

A text between quotes as error messages show it. Single quotes are used unless
the text holds a single quote and no double quote; the backslash, the chosen
quote and everything unprintable are escaped, by number where no short escape
exists.
-/

namespace TemplateLint.Text

/-- The lower-case hexadecimal digit of a number below sixteen. -/
def hexDigit (n : Nat) : CodePoint :=
  CodePoint.ofChar (Nat.digitChar n)

/-- The last `width` hexadecimal digits of a number. -/
def hexDigits : (width : Nat) → Nat → Text
  | 0, _ => []
  | width + 1, n => hexDigits width (n / 16) ++ [hexDigit (n % 16)]

/-- The quote put around a text. -/
def quoteFor (t : Text) : CodePoint :=
  if t.contains (CodePoint.ofChar '\'') && !t.contains (CodePoint.ofChar '"') then '"' else '\''

/-- How one code point stands between quotes. -/
def quotedPoint (quote c : CodePoint) : Text :=
  if c = quote ∨ c = '\\' then ['\\', c]
  else if c = '\t' then "\\t"
  else if c = '\n' then "\\n"
  else if c = '\r' then "\\r"
  else if c.val < 0x20 ∨ c.val = 0x7F then "\\x" ++ hexDigits 2 c.val
  else if c.val < 0x7F ∨ c.isPrintable then [c]
  else if c.val ≤ 0xFF then "\\x" ++ hexDigits 2 c.val
  else if c.val ≤ 0xFFFF then "\\u" ++ hexDigits 4 c.val
  else "\\U" ++ hexDigits 8 c.val

/-- A text between quotes. -/
def quoted (t : Text) : Text :=
  let quote := quoteFor t
  quote :: t.flatMap (quotedPoint quote) ++ [quote]

end TemplateLint.Text
