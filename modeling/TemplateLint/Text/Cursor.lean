import TemplateLint.Text.Basic

/-!
# Cursors

A cursor is the rest of a text together with the number of code points already
read. Reading only ever moves it forward.
-/

namespace TemplateLint

/-- The rest of a text and its offset. -/
structure Cursor where
  /-- Number of code points already read. -/
  offset : Nat
  /-- What is not read yet. -/
  rest : Text
  deriving DecidableEq

namespace Cursor

/-- Step over code points. -/
def advance (cursor : Cursor) (count : Nat) : Cursor :=
  ⟨cursor.offset + count, cursor.rest.drop count⟩

/-- A step does not lengthen the rest. -/
theorem length_advance_le (cursor : Cursor) (count : Nat) :
    (cursor.advance count).rest.length ≤ cursor.rest.length := by
  simp [advance]

/-- The longest run of code points that `p` accepts. -/
def run (cursor : Cursor) (p : CodePoint → Bool) : Text :=
  cursor.rest.takeWhile p

/-- Step over the longest run of code points that `p` accepts. -/
def skip (cursor : Cursor) (p : CodePoint → Bool) : Cursor :=
  cursor.advance (cursor.run p).length

/-- Step over blanks. -/
def skipBlanks (cursor : Cursor) : Cursor :=
  cursor.skip CodePoint.isBlank

/-- Whether a code point comes next. -/
def isAt (cursor : Cursor) (c : CodePoint) : Bool :=
  cursor.rest.head? = some c

/-- Whether a word comes next. -/
def startsWith (cursor : Cursor) (word : Text) : Bool :=
  Text.startsWith cursor.rest word

/-- Step over a code point that has to come next. -/
def expect? (cursor : Cursor) (c : CodePoint) : Option Cursor :=
  if cursor.isAt c then some (cursor.advance 1) else none

/-- Stepping over a code point does not lengthen the rest. -/
theorem length_of_expect? {cursor next : Cursor} {c : CodePoint}
    (h : cursor.expect? c = some next) : next.rest.length ≤ cursor.rest.length := by
  unfold expect? at h
  split at h
  · cases h
    exact length_advance_le cursor 1
  · cases h

/-- Step over a word that has to come next. -/
def expectWord? (cursor : Cursor) (word : Text) : Option Cursor :=
  if cursor.startsWith word then some (cursor.advance word.length) else none

/-- Step over one blank or more. -/
def expectBlanks? (cursor : Cursor) : Option Cursor :=
  if cursor.rest.head?.any CodePoint.isBlank then some cursor.skipBlanks else none

end Cursor

end TemplateLint
