import TemplateLint.Text.Basic

/-!
# Association lists

A table from names to values that keeps the order in which its names were first
entered. Entering a name again replaces its value in place.
-/

namespace TemplateLint

/-- Names with their values, each name at most once if built by `insert`. -/
abbrev Assoc (α : Type) := List (Text × α)

namespace Assoc

variable {α : Type}

/-- The value of a name. -/
def get? (table : Assoc α) (name : Text) : Option α :=
  (table.find? fun entry => decide (entry.1 = name)).map Prod.snd

/-- Enter a value under a name. -/
def insert (table : Assoc α) (name : Text) (value : α) : Assoc α :=
  match table with
  | [] => [(name, value)]
  | entry :: rest =>
    if entry.1 = name then (name, value) :: rest else entry :: insert rest name value

/-- The names in the order of their first entry. -/
def keys (table : Assoc α) : List Text :=
  table.map Prod.fst

end Assoc

end TemplateLint
