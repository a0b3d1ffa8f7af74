import TemplateLint.Text.Basic

/-!
# Brackets

Round, square and curly brackets are matched by a stack. An argument list is cut at
the commas that stand outside all brackets, and every part is trimmed.
-/

namespace TemplateLint.Source

/-- A range of a text, without its end. -/
structure Range where
  /-- Offset of the first code point. -/
  start : Nat
  /-- Offset after the last code point. -/
  stop : Nat
  deriving DecidableEq

/-- The part of a text in a range. -/
def Range.of (range : Range) (t : Text) : Text :=
  t.slice range.start range.stop

/-- The bracket that closes an opening one. -/
def closer? (c : CodePoint) : Option CodePoint :=
  if c = '(' then some (CodePoint.ofChar ')')
  else if c = '[' then some (CodePoint.ofChar ']')
  else if c = '{' then some (CodePoint.ofChar '}')
  else none

/-- Whether a code point is a closing bracket. -/
def isCloser (c : CodePoint) : Bool :=
  c = ')' || c = ']' || c = '}'

/-- Offset at which the first bracket opened is closed. The text starts at `offset`, and
`awaited` are the closing brackets still to come, innermost first. -/
def closingFrom (offset : Nat) (awaited : List CodePoint) : Text → Option Nat
  | [] => none
  | c :: rest =>
    match closer? c with
    | some closer => closingFrom (offset + 1) (closer :: awaited) rest
    | none =>
      if isCloser c then
        match awaited with
        | [] => none
        | closer :: outer =>
          if closer ≠ c then none
          else if outer = [] then some offset
          else closingFrom (offset + 1) outer rest
      else closingFrom (offset + 1) awaited rest

/-- Offset of the bracket that closes the one at `start`. -/
def findClosing (t : Text) (start : Nat) : Option Nat :=
  closingFrom start [] (t.drop start)

/-- The parts of a text between the commas at depth zero, starting at `depth`. -/
def commaParts (depth : Int) : Text → List Text
  | [] => [[]]
  | c :: rest =>
    if c = ',' ∧ depth = 0 then [] :: commaParts depth rest
    else
      let depth := if (closer? c).isSome then depth + 1 else if isCloser c then depth - 1 else depth
      match commaParts depth rest with
      | [] => [[c]]
      | part :: parts => (c :: part) :: parts

/-- The range of a part that starts at `start`, without the blanks at its ends. -/
def trimmedRange (start : Nat) (part : Text) : Range :=
  let first := start + (part.length - (Text.trimLeft part).length)
  ⟨first, first + (Text.trim part).length⟩

/-- The ranges of consecutive parts with one separator between neighbours. -/
def partRanges (start : Nat) : List Text → List Range
  | [] => []
  | part :: parts => trimmedRange start part :: partRanges (start + part.length + 1) parts

/-- The ranges between the outer commas from `start` to `stop`. Nothing but blanks is no
range at all. -/
def splitTopLevel (t : Text) (start stop : Nat) : List Range :=
  if stop < start then [⟨start, stop⟩]
  else
    match partRanges start (commaParts 0 (t.slice start stop)) with
    | [range] => if range.start = range.stop then [] else [range]
    | ranges => ranges

end TemplateLint.Source
