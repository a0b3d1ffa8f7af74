import TemplateLint.Config.Basic
import TemplateLint.Method.Store
import TemplateLint.Proofs.Method.Registration

/-!
# Tables that refer to dictionaries

A registration in one table of a store shows in every table that refers to the same dictionary.
Making and copying tables keeps their dictionaries apart, since a copy refers to a new one. Main
statements: after any steps every table holds what was registered in it, a copy in addition what
its source held before; and with this, that registration is a well-behaved merge.
-/

namespace TemplateLint.ShapeTable

namespace Store

variable {store : Store} {number : Nat} {table : ShapeTable}

/-! ### Who sees a registration -/

/-- Registration does not change to which dictionary a table refers. -/
@[simp]
theorem tables_register (store : Store) (target : Nat) (shape : Shape) :
    (store.register target shape).tables = store.tables := by
  unfold register
  split <;> rfl

/-- Registration makes no dictionary. -/
@[simp]
theorem length_cells_register (store : Store) (target : Nat) (shape : Shape) :
    (store.register target shape).cells.length = store.cells.length := by
  unfold register
  split
  · exact List.length_modify _ _ _
  · rfl

/-- A registration in one table shows in another one exactly if they refer to one dictionary. -/
theorem contents?_register (store : Store) (target other : Nat) (shape : Shape) :
    (store.register target shape).contents? other =
      if store.tables[target]? = store.tables[other]? then
        (store.contents? other).map (·.register shape)
      else store.contents? other := by
  unfold contents?
  rw [tables_register]
  cases hother : store.tables[other]? with
  | none => simp
  | some cell =>
    rw [Option.bind_some, Option.bind_some, register]
    cases store.tables[target]? with
    | none => rfl
    | some changed =>
      dsimp only
      rw [List.getElem?_modify]
      by_cases hcell : changed = cell
      · simp [hcell]
      · simp [hcell]

/-- Two tables with one dictionary, where a registration in the second one shows in the first. -/
example (shape : Shape) :
    ((⟨[.empty], [0, 0]⟩ : Store).register 1 shape).contents? 0 = some (empty.register shape) :=
  rfl

/-- Registrations do not change to which dictionary a table refers. -/
@[simp]
theorem tables_registerAll (store : Store) (target : Nat) (shapes : List Shape) :
    (store.registerAll target shapes).tables = store.tables := by
  induction shapes generalizing store with
  | nil => rfl
  | cons shape shapes ih => exact (ih _).trans (tables_register store target shape)

/-- Registrations make no dictionaries. -/
@[simp]
theorem length_cells_registerAll (store : Store) (target : Nat) (shapes : List Shape) :
    (store.registerAll target shapes).cells.length = store.cells.length := by
  induction shapes generalizing store with
  | nil => rfl
  | cons shape shapes ih => exact (ih _).trans (length_cells_register store target shape)

/-- Registrations in one table show in another one exactly if they refer to one dictionary. -/
theorem contents?_registerAll (store : Store) (target other : Nat) (shapes : List Shape) :
    (store.registerAll target shapes).contents? other =
      if store.tables[target]? = store.tables[other]? then
        (store.contents? other).map (·.registerAll shapes)
      else store.contents? other := by
  induction shapes generalizing store with
  | nil =>
    have hsame : (fun table : ShapeTable => table.registerAll []) = id := rfl
    rw [hsame, Option.map_id, id_eq, ite_self]
    rfl
  | cons shape shapes ih =>
    have hstep : store.registerAll target (shape :: shapes) =
        (store.register target shape).registerAll target shapes := rfl
    rw [hstep, ih, tables_register, contents?_register]
    split
    · rw [Option.map_map]
      rfl
    · rfl

/-! ### Dictionaries of one table each -/

/-- Every table has a dictionary, and no two tables have one. -/
structure Separate (store : Store) : Prop where
  /-- The dictionaries are there. -/
  lt : ∀ cell ∈ store.tables, cell < store.cells.length
  /-- They are different. -/
  nodup : store.tables.Nodup

/-- A table that holds something is in use. -/
theorem lt_of_contents? (h : store.contents? number = some table) :
    number < store.tables.length := by
  obtain ⟨cell, hcell, _⟩ := Option.bind_eq_some_iff.mp h
  exact (List.getElem?_eq_some_iff.mp hcell).1

/-- A registration shows in its own table only. -/
theorem Separate.contents?_registerAll (h : store.Separate) (target : Nat)
    (hnumber : number < store.tables.length) (shapes : List Shape) :
    (store.registerAll target shapes).contents? number =
      if target = number then (store.contents? number).map (·.registerAll shapes)
      else store.contents? number := by
  have hsame : store.tables[target]? = store.tables[number]? ↔ target = number := by
    rw [eq_comm, List.getElem?_inj hnumber h.nodup, eq_comm]
  rw [Store.contents?_registerAll]
  simp only [hsame]

/-- Registrations keep the dictionaries apart. -/
theorem Separate.registerAll (h : store.Separate) (target : Nat) (shapes : List Shape) :
    (store.registerAll target shapes).Separate where
  lt := by
    rw [tables_registerAll, length_cells_registerAll]
    exact h.lt
  nodup := by
    rw [tables_registerAll]
    exact h.nodup

/-- A new table refers to a dictionary of its own. -/
theorem Separate.create (h : store.Separate) : store.create.Separate where
  lt := by
    intro cell hcell
    rw [Store.create, List.length_append, List.length_singleton]
    rcases List.mem_append.mp hcell with hold | hnew
    · exact Nat.lt_succ_of_lt (h.lt cell hold)
    · rw [List.mem_singleton.mp hnew]
      exact Nat.lt_succ_self _
  nodup := by
    refine List.Nodup.append h.nodup (List.nodup_singleton _) ?_
    rw [List.disjoint_singleton]
    exact fun hmem => Nat.lt_irrefl _ (h.lt _ hmem)

/-- A new table changes no other one. -/
theorem Separate.contents?_create (h : store.Separate) (hnumber : number < store.tables.length) :
    store.create.contents? number = store.contents? number := by
  have hcell := List.getElem?_eq_getElem hnumber
  unfold contents? Store.create
  rw [List.getElem?_append_left hnumber, hcell, Option.bind_some, Option.bind_some,
    List.getElem?_append_left (h.lt _ (List.getElem_mem hnumber))]

/-- A new table holds nothing. -/
theorem contents?_create_length (store : Store) :
    store.create.contents? store.tables.length = some .empty := by
  simp [contents?, create]

/-- A step keeps the dictionaries apart. -/
theorem Separate.apply (h : store.Separate) (step : Step) : (store.apply step).Separate := by
  cases step with
  | create => exact h.create
  | register target shape => exact h.registerAll target [shape]
  | copy source =>
    rw [Store.apply, Store.copy]
    split
    · exact h.create.registerAll _ _
    · exact h

/-- Steps keep the dictionaries apart. -/
theorem Separate.run (h : store.Separate) (steps : List Step) : (store.run steps).Separate := by
  induction steps generalizing store with
  | nil => exact h
  | cons step steps ih => exact ih (h.apply step)

/-- Where no tables are in use, no two have one dictionary. -/
theorem separate_initial : initial.Separate :=
  ⟨List.forall_mem_nil _, List.nodup_nil⟩

/-! ### What the tables hold -/

/-- A copy holds what its source holds, in a dictionary of its own. -/
theorem contents?_copy_length (h : store.contents? number = some table) :
    (store.copy number).contents? store.tables.length = some table := by
  rw [copy, h]
  dsimp only
  rw [contents?_registerAll, if_pos rfl, contents?_create_length, Option.map_some]
  exact congrArg some table.copy_eq

/-- A step changes a table only by what it registers there. -/
theorem Separate.contents?_apply (h : store.Separate)
    (hnumber : store.contents? number = some table) (step : Step) :
    (store.apply step).contents? number =
      some (table.registerAll (step.shapeFor? number).toList) := by
  have hlt := lt_of_contents? hnumber
  cases step with
  | create => exact (h.contents?_create hlt).trans hnumber
  | register target shape =>
    have hstep : store.apply (.register target shape) = store.registerAll target [shape] := rfl
    rw [hstep, h.contents?_registerAll target hlt, hnumber, Step.shapeFor?]
    split <;> rfl
  | copy source =>
    rw [Store.apply, Store.copy]
    split
    · next contents _ =>
      have hold : number < store.create.tables.length := by
        rw [Store.create, List.length_append]
        exact Nat.lt_add_right _ hlt
      rw [h.create.contents?_registerAll _ hold, if_neg (Nat.ne_of_gt hlt),
        h.contents?_create hlt, hnumber]
      rfl
    · exact hnumber

/-- Steps change a table only by what they register there. -/
theorem Separate.contents?_run (h : store.Separate) (hnumber : store.contents? number = some table)
    (steps : List Step) : (store.run steps).contents? number =
      some (table.registerAll (steps.filterMap (Step.shapeFor? number))) := by
  induction steps generalizing store table with
  | nil => exact hnumber
  | cons step steps ih =>
    have hrest := ih (h.apply step) (h.contents?_apply hnumber step)
    rw [Store.run, List.foldl_cons]
    rw [Store.run] at hrest
    rw [hrest, List.filterMap_cons, ShapeTable.registerAll, ShapeTable.registerAll,
      ShapeTable.registerAll, ← List.foldl_append]
    cases step.shapeFor? number <;> rfl

/-- After a copy, the table and its copy have what the table held before, and each has in
addition only what is registered in itself. -/
theorem Separate.contents?_run_copy (h : store.Separate)
    (hsource : store.contents? number = some table) (later : List Step) :
    (store.run (.copy number :: later)).contents? number =
        some (table.registerAll (later.filterMap (Step.shapeFor? number))) ∧
      (store.run (.copy number :: later)).contents? store.tables.length =
        some (table.registerAll (later.filterMap (Step.shapeFor? store.tables.length))) :=
  ⟨h.contents?_run hsource (.copy number :: later),
    (h.apply (.copy number)).contents?_run (contents?_copy_length hsource) later⟩

/-- A configuration that is extended keeps its table, since the shapes are registered in a
copy. -/
theorem Separate.contents?_extend {config : Config} (h : store.Separate)
    (hsource : store.contents? number = some config.shapes) (shapes : List Shape)
    (extensionClasses exceptionTypes : List Text) :
    ((store.copy number).registerAll store.tables.length shapes).contents? number =
        some config.shapes ∧
      ((store.copy number).registerAll store.tables.length shapes).contents? store.tables.length =
        some (config.extend shapes extensionClasses exceptionTypes).shapes := by
  have hcopied : (store.copy number).Separate := h.apply (.copy number)
  have hold : (store.copy number).contents? number = some config.shapes :=
    h.contents?_apply hsource (.copy number)
  have hnew := contents?_copy_length hsource
  rw [hcopied.contents?_registerAll _ (lt_of_contents? hold),
    hcopied.contents?_registerAll _ (lt_of_contents? hnew), if_pos rfl,
    if_neg (Nat.ne_of_gt (lt_of_contents? hsource)), hold, hnew, Config.extend,
    config.shapes.copy_eq]
  exact ⟨rfl, rfl⟩

/-- Steps may be taken in two parts. -/
theorem run_append (store : Store) (earlier later : List Step) :
    store.run (earlier ++ later) = (store.run earlier).run later :=
  List.foldl_append

end Store

/-- Registration is a merge. After any registrations, what is looked up under a name is what the
shapes of that name come to. Merging is associative and idempotent; a shape that was registered
before changes nothing; registrations under different names commute; the names are strictly
increasing and are the registered ones. And among tables that refer to dictionaries, however they
were made, copied and filled before, and whatever is registered in any order afterwards, a table
and a copy of it each hold what the table held before the copy and what is registered in
itself. -/
theorem registration_merges :
    (∀ (shapes : List Shape) (name : Text), (ofShapes shapes).lookup name =
      Shape.registered (shapes.filter fun shape => decide (shape.name = name))) ∧
    (∀ a b c : Shape, (a.merge b).merge c = a.merge (b.merge c)) ∧
    (∀ a : Shape, a.merge a = a) ∧
    (∀ (shapes : List Shape), ∀ shape ∈ shapes,
      (ofShapes shapes).register shape = ofShapes shapes) ∧
    (∀ (shapes : List Shape) (a b : Shape), a.name ≠ b.name →
      (∀ name, (((ofShapes shapes).register a).register b).lookup name =
        (((ofShapes shapes).register b).register a).lookup name) ∧
      (((ofShapes shapes).register a).register b).names =
        (((ofShapes shapes).register b).register a).names) ∧
    (∀ shapes : List Shape, Text.Increasing (ofShapes shapes).names ∧
      ∀ name, name ∈ (ofShapes shapes).names ↔ ∃ shape ∈ shapes, shape.name = name) ∧
    ∀ (earlier later : List Store.Step) (source : Nat) (table : ShapeTable),
      (Store.initial.run earlier).contents? source = some table →
        (Store.initial.run (earlier ++ .copy source :: later)).contents? source =
          some (table.registerAll (later.filterMap (Store.Step.shapeFor? source))) ∧
        (Store.initial.run (earlier ++ .copy source :: later)).contents?
            (Store.initial.run earlier).tables.length =
          some (table.registerAll (later.filterMap
            (Store.Step.shapeFor? (Store.initial.run earlier).tables.length))) := by
  refine ⟨lookup_ofShapes, Shape.merge_assoc, Shape.merge_self, fun shapes shape => register_of_mem,
    fun shapes a b h => ⟨lookup_register_comm h _, names_eq (lookup_register_comm h _)⟩,
    fun shapes => ⟨increasing_names _, fun name => ?_⟩, ?_⟩
  · rw [mem_names_iff, lookup_ofShapes, Shape.isSome_registered_iff]
    simp only [List.mem_filter, decide_eq_true_eq]
  · intro earlier later source table h
    rw [Store.run_append]
    exact (Store.separate_initial.run earlier).contents?_run_copy h later

/-- Two shapes of one name, where the first one repeats an overload and the second one repeats a
new overload beside one that is there; a shape of another name; and a copy that is made between
the two shapes. -/
theorem registration_merges_repeated :
    let plain := logging []
    let slotted := logging [.exception]
    let first : Shape := { name := "Audit", overloads := [plain, plain] }
    let second : Shape :=
      { name := "Audit", overloads := [slotted, plain, slotted], requiresConstant := false }
    let merged : Shape :=
      { name := "Audit", overloads := [plain, plain, slotted], requiresConstant := false }
    let other : Shape := { name := "Note", overloads := [plain] }
    let steps : List Store.Step :=
      [.create, .register 0 first, .copy 0, .register 1 second, .register 0 other]
    (first ∈ [first, second] ∧
      (ofShapes [first, second]).register first = ofShapes [first, second] ∧
      (ofShapes [first, second]).lookup "Audit" = some merged) ∧
    (first.name ≠ other.name ∧ (((ofShapes []).register first).register other).names =
      (((ofShapes []).register other).register first).names) ∧
    (Store.initial.run [.create, .register 0 first]).contents? 0 = some (ofShapes [first]) ∧
      (Store.initial.run steps).contents? 0 = some (ofShapes [first, other]) ∧
      (Store.initial.run steps).contents? 1 = some (ofShapes [first, second]) := by
  intro plain slotted first second merged other steps
  obtain ⟨hlookup, _, _, hagain, hcommute, _, hcopies⟩ := registration_merges
  have hmem : first ∈ [first, second] := List.mem_cons_self
  have hne : first.name ≠ other.name := by decide
  have hmerged : Shape.registered
      ([first, second].filter fun shape => decide (shape.name = Text.ofString "Audit")) =
        some merged := by decide
  have htable : (Store.initial.run [.create, .register 0 first]).contents? 0 =
      some (ofShapes [first]) := rfl
  obtain ⟨horiginal, hcopied⟩ :=
    hcopies [.create, .register 0 first] [.register 1 second, .register 0 other] 0 _ htable
  exact ⟨⟨hmem, hagain _ first hmem, (hlookup _ _).trans hmerged⟩, ⟨hne, (hcommute [] _ _ hne).2⟩,
    htable, horiginal, hcopied⟩

end TemplateLint.ShapeTable
