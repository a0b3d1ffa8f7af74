/-!
# Code points

The unit of every text here is a Unicode code point. A literal may spell a lone
surrogate by its number, so a code point is not required to be a character; every
offset, length and column counts code points.
-/

namespace TemplateLint

/-- A Unicode code point, surrogates included. -/
structure CodePoint where
  /-- Number of the code point. -/
  val : Nat
  /-- The last code point is `10FFFF`. -/
  isLt : val < 0x110000
  deriving DecidableEq

namespace CodePoint

/-- Two code points with one number are equal. -/
@[ext]
theorem ext {a b : CodePoint} (h : a.val = b.val) : a = b := by
  cases a
  cases b
  cases h
  rfl

/-- Every character is a code point. -/
def ofChar (c : Char) : CodePoint where
  val := c.toNat
  isLt := by
    have h := c.valid
    simp only [UInt32.isValidChar, Nat.isValidChar] at h
    simp only [Char.toNat]
    omega

instance : Coe Char CodePoint := ⟨ofChar⟩

instance : Inhabited CodePoint := ⟨ofChar ' '⟩

/-- The code point with a given number, if there is one. -/
def ofNat? (n : Nat) : Option CodePoint :=
  if h : n < 0x110000 then some ⟨n, h⟩ else none

/-- Surrogates are code points that no character has. -/
def isSurrogate (c : CodePoint) : Bool :=
  0xD800 ≤ c.val && c.val ≤ 0xDFFF

/-- Membership in a table of closed ranges. -/
def inRanges (table : List (Nat × Nat)) (c : CodePoint) : Bool :=
  table.any fun range => range.1 ≤ c.val && c.val ≤ range.2

end CodePoint

end TemplateLint
