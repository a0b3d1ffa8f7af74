import TemplateLint.Text.Basic

/-!
# Parameters

One parameter of a method: attributes in square brackets are dropped, a default
value is cut off, and what is left are modifiers, a type and a name.
-/

namespace TemplateLint.Declare

/-- A parameter of a method. -/
structure Parameter where
  /-- The name, without the `@` in front. -/
  name : Text
  /-- The words of the type with single spaces between them. -/
  typeName : Text
  /-- The modifiers in order. -/
  modifiers : List Text
  deriving DecidableEq

/-- Words that may precede the type of a parameter. -/
def modifierWords : List Text :=
  ["this", "params", "ref", "out", "in", "scoped", "readonly"]

/-- What follows an attribute at the front of a text. An attribute reaches to the first
closing bracket. -/
def afterAttribute? (t : Text) : Option Text :=
  match Text.trimLeft t with
  | [] => none
  | c :: rest => if c = '[' then Text.after? ']' rest else none

/-- An attribute takes at least its brackets. -/
theorem length_of_afterAttribute? {t tail : Text} (h : afterAttribute? t = some tail) :
    tail.length < t.length := by
  have htrim : (Text.trimLeft t).length ≤ t.length :=
    (List.dropWhile_sublist CodePoint.isBlank).length_le
  unfold afterAttribute? at h
  split at h
  · cases h
  · next c rest hrest =>
    rw [hrest] at htrim
    split at h
    · obtain ⟨parts, hcut, rfl⟩ := Option.map_eq_some_iff.mp h
      have := Text.length_lt_of_cut? hcut
      simp at htrim
      omega
    · cases h

/-- Blanks and attributes at the front are dropped. -/
def dropAttributes (t : Text) : Text :=
  match h : afterAttribute? t with
  | some tail =>
    have := length_of_afterAttribute? h
    dropAttributes tail
  | none => Text.trimLeft t
termination_by t.length

/-- Read a parameter; a type and a name are needed. -/
def Parameter.parse? (t : Text) : Option Parameter :=
  let words := Text.words (Text.before '=' (dropAttributes t))
  let modifiers := words.takeWhile modifierWords.contains
  let rest := words.dropWhile modifierWords.contains
  match rest.getLast? with
  | none => none
  | some last =>
    if rest.length < 2 then none
    else
      some
        { name := if last.head? = some (CodePoint.ofChar '@') then last.tail else last
          typeName := Text.join " " rest.dropLast
          modifiers }

end TemplateLint.Declare
