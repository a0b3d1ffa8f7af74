import TemplateLint.Text.Cursor

/-!
# Occurrences

A pattern is tried at every place of a text from left to right. It sees the code
point in front of the place and, if it matches, says where the match ends; the
search goes on after the match, so occurrences do not overlap.
-/

namespace TemplateLint.Source

/-- A test at one place of a text: what is found, and the place after it. -/
abbrev Pattern (α : Type) := Option CodePoint → Cursor → Option (α × Cursor)

/-- A match of a pattern. -/
structure Occurrence (α : Type) where
  /-- Offset of the match. -/
  start : Nat
  /-- Offset after the match. -/
  stop : Nat
  /-- What the pattern found. -/
  value : α

variable {α : Type}

/-- The occurrences in a text that starts at `offset` after the code point `before`;
`skip` code points belong to an occurrence already found. -/
def occurrencesFrom (pattern : Pattern α) (before : Option CodePoint) (offset skip : Nat) :
    Text → List (Occurrence α)
  | [] => []
  | c :: rest =>
    match skip with
    | skip + 1 => occurrencesFrom pattern (some c) (offset + 1) skip rest
    | 0 =>
      match pattern before ⟨offset, c :: rest⟩ with
      | some (value, next) =>
        ⟨offset, next.offset, value⟩ ::
          occurrencesFrom pattern (some c) (offset + 1) (next.offset - offset - 1) rest
      | none => occurrencesFrom pattern (some c) (offset + 1) 0 rest

/-- The occurrences of a pattern in order. -/
def occurrences (pattern : Pattern α) (t : Text) : List (Occurrence α) :=
  occurrencesFrom pattern none 0 0 t

/-- The first occurrence in a text that starts at `offset` after the code point `before`. -/
def firstFrom? (pattern : Pattern α) (before : Option CodePoint) (offset : Nat) :
    Text → Option (Occurrence α)
  | [] => none
  | c :: rest =>
    match pattern before ⟨offset, c :: rest⟩ with
    | some (value, next) => some ⟨offset, next.offset, value⟩
    | none => firstFrom? pattern (some c) (offset + 1) rest

/-- The first occurrence at or after an offset. -/
def firstAfter? (pattern : Pattern α) (t : Text) (start : Nat) : Option (Occurrence α) :=
  firstFrom? pattern (if start = 0 then none else t[start - 1]?) start (t.drop start)

end TemplateLint.Source
