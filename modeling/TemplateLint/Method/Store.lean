import TemplateLint.Method.Shape

/-!
# Tables in a store

A table that a program holds is an object with a dictionary, and registration changes the
dictionary in place. So what one table shows after a registration in another one depends on
whether the two refer to one dictionary. A store keeps the dictionaries and, for every table,
which of them it refers to; the value of a dictionary is a `ShapeTable`.
-/

namespace TemplateLint.ShapeTable

/-- The tables in use, by number, and the dictionaries to which they refer. -/
structure Store where
  /-- What each dictionary holds. -/
  cells : List ShapeTable
  /-- The dictionary of each table, by its index. Nothing keeps two tables from having one. -/
  tables : List Nat
  deriving DecidableEq

namespace Store

/-- No tables are in use. -/
def initial : Store := ⟨[], []⟩

/-- What the dictionary of a table holds. -/
def contents? (store : Store) (table : Nat) : Option ShapeTable :=
  store.tables[table]?.bind (store.cells[·]?)

/-- Make a table with a new dictionary, which is empty. -/
def create (store : Store) : Store where
  cells := store.cells ++ [.empty]
  tables := store.tables ++ [store.cells.length]

/-- Register a shape in the dictionary to which a table refers. -/
def register (store : Store) (table : Nat) (shape : Shape) : Store :=
  match store.tables[table]? with
  | some cell => { store with cells := store.cells.modify cell (·.register shape) }
  | none => store

/-- Register several shapes in the dictionary to which a table refers, in order. -/
def registerAll (store : Store) (table : Nat) (shapes : List Shape) : Store :=
  shapes.foldl (fun store shape => store.register table shape) store

/-- Make a table with a new dictionary, in which the shapes of another table are registered. -/
def copy (store : Store) (source : Nat) : Store :=
  match store.contents? source with
  | some contents => store.create.registerAll store.tables.length contents.shapes
  | none => store

/-- Something that is done with the tables of a store. -/
inductive Step
  /-- A table is made. -/
  | create
  /-- A shape is registered in a table. -/
  | register (target : Nat) (shape : Shape)
  /-- A table is copied; the copy gets the next number. -/
  | copy (source : Nat)

/-- The store after a step. -/
def apply (store : Store) : Step → Store
  | .create => store.create
  | .register target shape => store.register target shape
  | .copy source => store.copy source

/-- The store after several steps. -/
def run (store : Store) (steps : List Step) : Store :=
  steps.foldl apply store

/-- The shape that a step registers in the table of a given number. -/
def Step.shapeFor? (number : Nat) : Step → Option Shape
  | .register target shape => if target = number then some shape else none
  | _ => none

end Store

end TemplateLint.ShapeTable
