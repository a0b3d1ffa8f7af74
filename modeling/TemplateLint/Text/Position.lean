import TemplateLint.Text.Basic

/-!
# Lines and columns

Offsets count from zero, lines and columns from one. A line ends with a line
feed, which is its last code point.
-/

namespace TemplateLint

/-- A place in a text. -/
structure Position where
  /-- Line, counted from one. -/
  line : Int
  /-- Column, counted from one. -/
  column : Int
  deriving DecidableEq

/-- Offsets at which the lines of a text start, in increasing order. -/
structure LineIndex where
  /-- Start of every line. -/
  starts : List Nat

namespace LineIndex

/-- Starts of the lines after the first one, where `offset` code points come earlier. -/
def laterStarts (offset : Nat) : Text → List Nat
  | [] => []
  | c :: rest =>
    if c = '\n' then (offset + 1) :: laterStarts (offset + 1) rest
    else laterStarts (offset + 1) rest

/-- The line starts of a text. -/
def ofText (t : Text) : LineIndex :=
  ⟨0 :: laterStarts 0 t⟩

/-- The place of an offset. An offset before the text is put on line zero and its
column is counted from the start of the last line. -/
def locate (index : LineIndex) (offset : Int) : Position :=
  let reached := index.starts.takeWhile fun (start : Nat) => decide ((start : Int) ≤ offset)
  let start := (reached.getLast?.orElse fun _ => index.starts.getLast?).getD 0
  ⟨reached.length, offset - start + 1⟩

end LineIndex

end TemplateLint
