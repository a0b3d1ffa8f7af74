import TemplateLint.Text.CodePoint
import TemplateLint.Text.Letters
import TemplateLint.Text.Numerals
import TemplateLint.Text.Punctuation
import TemplateLint.Text.Unprintable

/-!
# Classes of code points

Each class is a Boolean test. The classes of source code words and blanks, of
decimal digits and of format texts follow the Unicode categories; the classes
whose name starts with `isAscii` know the first 128 code points only.
-/

namespace TemplateLint.CodePoint

/-- Letters `a` to `z`. -/
def isAsciiLower (c : CodePoint) : Bool :=
  0x61 ≤ c.val && c.val ≤ 0x7A

/-- Letters `A` to `Z`. -/
def isAsciiUpper (c : CodePoint) : Bool :=
  0x41 ≤ c.val && c.val ≤ 0x5A

/-- Letters of either case. -/
def isAsciiLetter (c : CodePoint) : Bool :=
  c.isAsciiLower || c.isAsciiUpper

/-- Digits `0` to `9`. -/
def isAsciiDigit (c : CodePoint) : Bool :=
  0x30 ≤ c.val && c.val ≤ 0x39

/-- Letters, digits and the underscore. -/
def isAsciiWord (c : CodePoint) : Bool :=
  c.isAsciiLetter || c.isAsciiDigit || c = '_'

/-- Hexadecimal digits of either case. -/
def isHexDigit (c : CodePoint) : Bool :=
  c.isAsciiDigit || (0x61 ≤ c.val && c.val ≤ 0x66) || (0x41 ≤ c.val && c.val ≤ 0x46)

/-- Value of a hexadecimal digit; other code points count as zero. -/
def hexValue (c : CodePoint) : Nat :=
  if c.isAsciiDigit then c.val - 0x30
  else if 0x61 ≤ c.val ∧ c.val ≤ 0x66 then c.val - 0x57
  else if 0x41 ≤ c.val ∧ c.val ≤ 0x46 then c.val - 0x37
  else 0

/-- An identifier starts with a letter or an underscore. -/
def isIdentifierStart (c : CodePoint) : Bool :=
  c.isAsciiLetter || c = '_'

/-- Line ends, tabs, spaces and the separators between information blocks. -/
def isBlank (c : CodePoint) : Bool :=
  (0x09 ≤ c.val && c.val ≤ 0x0D) || (0x1C ≤ c.val && c.val ≤ 0x20) ||
    c.val = 0x85 || c.val = 0xA0 || c.val = 0x1680 ||
    (0x2000 ≤ c.val && c.val ≤ 0x200A) || c.val = 0x2028 || c.val = 0x2029 ||
    c.val = 0x202F || c.val = 0x205F || c.val = 0x3000

/-- Digits of every decimal numbering system. -/
def isDecimalDigit (c : CodePoint) : Bool :=
  if c.val < 0x80 then c.isAsciiDigit else c.inRanges Text.decimalDigitRanges

/-- Letters, numerals and the underscore. -/
def isWord (c : CodePoint) : Bool :=
  if c.val < 0x80 then c.isAsciiWord
  else c.inRanges Text.letterRanges || c.inRanges Text.decimalDigitRanges ||
    c.inRanges Text.otherNumeralRanges

/-- What a format text may hold: the space, letters, punctuation and decimal digits. -/
def isFormat (c : CodePoint) : Bool :=
  c = ' ' || c.inRanges Text.letterRanges || c.inRanges Text.punctuationRanges ||
    c.inRanges Text.decimalDigitRanges

/-- What a quoted text shows as itself. -/
def isPrintable (c : CodePoint) : Bool :=
  !c.inRanges Text.unprintableRanges

end TemplateLint.CodePoint
