import Mathlib.Data.List.Induction
import Mathlib.Data.List.Nodup
import TemplateLint.Method.Shape
import TemplateLint.Proofs.Text.Order

/-!
# Registration of shapes

A shape that is registered under a name that is taken is merged into the one that is there. So a
table depends on the order of registrations only through the order of the shapes of one name.
Main statements: what is looked up after any registrations, the laws of merging, and that a copy
holds the same shapes.
-/

namespace TemplateLint

namespace Shape

variable {a b c : Shape} {known more : List Overload} {overload : Overload}

/-- Adding overloads one after the other keeps each new one where it first occurs. -/
theorem foldl_addOverload (known more : List Overload) :
    more.foldl addOverload known =
      known ++ (more.filter fun overload => decide (overload ∉ known)).eraseDups := by
  induction more generalizing known with
  | nil => exact (List.append_nil known).symm
  | cons first more ih =>
    rw [List.foldl_cons, ih, addOverload]
    by_cases hfirst : first ∈ known
    · simp [hfirst]
    · have hnew : (fun overload => decide (overload ∉ known ++ [first])) =
          fun overload => !overload == first && decide (overload ∉ known) := by
        funext overload
        rw [Bool.eq_iff_iff]
        simp [and_comm]
      rw [if_neg hfirst, List.filter_cons, if_pos (decide_eq_true hfirst), List.eraseDups_cons,
        List.append_assoc, List.singleton_append, List.filter_filter, hnew]

/-- Added overloads are there, beside those that were there. -/
theorem mem_foldl_addOverload :
    overload ∈ more.foldl addOverload known ↔ overload ∈ known ∨ overload ∈ more := by
  rw [foldl_addOverload, List.mem_append, List.mem_eraseDups, List.mem_filter, decide_eq_true_eq]
  tauto

/-- Overloads that are there are not added. -/
theorem foldl_addOverload_of_subset (h : ∀ overload ∈ more, overload ∈ known) :
    more.foldl addOverload known = known := by
  have hnone : (more.filter fun overload => decide (overload ∉ known)) = [] :=
    List.filter_eq_nil_iff.mpr fun overload hmem => by simp [h overload hmem]
  rw [foldl_addOverload, hnone, List.eraseDups_nil, List.append_nil]

/-- Overloads may be added to others before all of them are added. -/
theorem foldl_addOverload_assoc (known more last : List Overload) :
    last.foldl addOverload (more.foldl addOverload known) =
      (last.foldl addOverload more).foldl addOverload known := by
  induction last generalizing more with
  | nil => rfl
  | cons first last ih =>
    have hfirst : addOverload (more.foldl addOverload known) first =
        (addOverload more first).foldl addOverload known := by
      by_cases hmem : first ∈ more
      · rw [addOverload, addOverload, if_pos hmem, if_pos (mem_foldl_addOverload.mpr (.inr hmem))]
      · have hnew : addOverload more first = more ++ [first] := if_neg hmem
        rw [hnew, List.foldl_append]
        rfl
    rw [List.foldl_cons, List.foldl_cons, hfirst, ih]

/-- Merging is associative. -/
theorem merge_assoc (a b c : Shape) : (a.merge b).merge c = a.merge (b.merge c) := by
  unfold merge
  dsimp only
  rw [foldl_addOverload_assoc, Bool.and_assoc]

/-- A shape holds what another one says: its overloads, and its freedom from the requirement. -/
structure Covers (a b : Shape) : Prop where
  /-- The overloads are there. -/
  overloads : ∀ overload ∈ b.overloads, overload ∈ a.overloads
  /-- Only what both require is required. -/
  requiresConstant : a.requiresConstant = true → b.requiresConstant = true

/-- Merging a shape changes nothing where it is covered. -/
theorem Covers.merge_eq (h : a.Covers b) : a.merge b = a := by
  have hrequires : (a.requiresConstant && b.requiresConstant) = a.requiresConstant := by
    cases hcase : a.requiresConstant with
    | false => rfl
    | true => rw [h.requiresConstant hcase, Bool.and_self]
  unfold merge
  rw [foldl_addOverload_of_subset h.overloads, hrequires]

/-- Merging is idempotent. -/
theorem merge_self (a : Shape) : a.merge a = a :=
  Covers.merge_eq ⟨fun _ => id, id⟩

/-- What shapes of one name come to when they are registered one after the other: the overloads
of the first one as they are, then those of the later ones in order, each kept only where it
first occurs; and the template has to be a constant if every shape says so. -/
def registered : List Shape → Option Shape
  | [] => none
  | first :: later => some
    { name := first.name
      overloads := first.overloads ++ ((later.flatMap Shape.overloads).filter fun overload =>
        decide (overload ∉ first.overloads)).eraseDups
      requiresConstant := (first :: later).all Shape.requiresConstant }

/-- Shapes come to something unless there are none. -/
theorem isSome_registered_iff {shapes : List Shape} :
    (registered shapes).isSome ↔ ∃ shape, shape ∈ shapes := by
  cases shapes with
  | nil => simp [registered]
  | cons first later => exact iff_of_true rfl ⟨first, List.mem_cons_self⟩

/-- One more shape is merged into what the others come to. -/
theorem registered_concat (shapes : List Shape) (shape : Shape) :
    registered (shapes ++ [shape]) = some ((registered shapes).elim shape (·.merge shape)) := by
  cases shapes with
  | nil =>
    simp [registered]
  | cons first later =>
    rw [List.cons_append, registered, registered]
    simp only [Option.elim_some, merge, ← foldl_addOverload, List.flatMap_append,
      List.foldl_append, List.flatMap_singleton, List.all_cons, List.all_append, List.all_nil,
      Bool.and_true, Bool.and_assoc]

/-- What shapes come to covers each of them. -/
theorem covers_of_registered {shapes : List Shape} {found shape : Shape}
    (h : registered shapes = some found) (hshape : shape ∈ shapes) : found.Covers shape := by
  cases shapes with
  | nil => cases hshape
  | cons first later =>
    cases h
    constructor
    · intro overload hoverload
      rw [← foldl_addOverload, mem_foldl_addOverload]
      rcases List.mem_cons.mp hshape with rfl | hlater
      · exact .inl hoverload
      · exact .inr (List.mem_flatMap.mpr ⟨shape, hlater, hoverload⟩)
    · intro hall
      exact List.all_eq_true.mp hall shape hshape

end Shape

namespace ShapeTable

variable {table : ShapeTable} {shape : Shape} {shapes : List Shape} {name : Text}

/-! ### What registration does to a table -/

/-- A registered shape is merged into the one of its name, and the other names keep theirs. -/
theorem lookup_register (table : ShapeTable) (shape : Shape) (name : Text) :
    (table.register shape).lookup name =
      if shape.name = name then some ((table.lookup name).elim shape (·.merge shape))
      else table.lookup name := by
  change (registerIn shape table.shapes).find? (fun other => decide (other.name = name)) =
    if shape.name = name then
      some ((table.shapes.find? fun other => decide (other.name = name)).elim shape
        (·.merge shape))
    else table.shapes.find? fun other => decide (other.name = name)
  generalize table.shapes = known
  induction known with
  | nil =>
    by_cases hname : shape.name = name
    · simp [registerIn, hname]
    · simp [registerIn, hname]
  | cons first rest ih =>
    rw [registerIn]
    by_cases hfirst : first.name = shape.name
    · rw [if_pos hfirst]
      by_cases hname : first.name = name
      · have hmerged : (first.merge shape).name = name := hname
        simp [← hfirst, hname, hmerged]
      · have hmerged : (first.merge shape).name ≠ name := hname
        simp [← hfirst, hname, hmerged]
    · rw [if_neg hfirst]
      by_cases hname : first.name = name
      · have hother : shape.name ≠ name := fun h => hfirst (hname.trans h.symm)
        simp [hname, hother]
      · simp [hname, ih]

/-- The table after one more registration. -/
theorem ofShapes_concat (shapes : List Shape) (shape : Shape) :
    ofShapes (shapes ++ [shape]) = (ofShapes shapes).register shape := by
  unfold ofShapes registerAll
  rw [List.foldl_append]
  rfl

/-- What is looked up after any registrations is what the shapes of that name come to. -/
theorem lookup_ofShapes (shapes : List Shape) (name : Text) :
    (ofShapes shapes).lookup name =
      Shape.registered (shapes.filter fun shape => decide (shape.name = name)) := by
  induction shapes using List.reverseRecOn with
  | nil => rfl
  | append_singleton shapes shape ih =>
    rw [ofShapes_concat, lookup_register, ih, List.filter_append, List.filter_singleton]
    by_cases hname : shape.name = name
    · rw [if_pos hname, decide_eq_true hname]
      exact (Shape.registered_concat _ _).symm
    · rw [if_neg hname, decide_eq_false hname]
      exact congrArg Shape.registered (List.append_nil _).symm

/-- Registering a shape changes nothing where it is covered. -/
theorem register_eq_self {found : Shape} (h : table.lookup shape.name = some found)
    (hcovers : found.Covers shape) : table.register shape = table := by
  have hshapes : registerIn shape table.shapes = table.shapes := by
    change table.shapes.find? (fun other => decide (other.name = shape.name)) = some found at h
    generalize table.shapes = known at h ⊢
    induction known with
    | nil => cases h
    | cons first rest ih =>
      rw [registerIn]
      by_cases hfirst : first.name = shape.name
      · rw [List.find?_cons_of_pos (by simpa using hfirst)] at h
        cases h
        rw [if_pos hfirst, hcovers.merge_eq]
      · rw [List.find?_cons_of_neg (by simpa using hfirst)] at h
        rw [if_neg hfirst, ih h]
  exact ShapeTable.ext hshapes

/-- A shape that was registered before changes nothing. -/
theorem register_of_mem (h : shape ∈ shapes) :
    (ofShapes shapes).register shape = ofShapes shapes := by
  have hmem : shape ∈ shapes.filter fun other => decide (other.name = shape.name) :=
    List.mem_filter.mpr ⟨h, decide_eq_true rfl⟩
  obtain ⟨found, hfound⟩ := Option.isSome_iff_exists.mp (Shape.isSome_registered_iff.mpr ⟨_, hmem⟩)
  exact register_eq_self ((lookup_ofShapes shapes shape.name).trans hfound)
    (Shape.covers_of_registered hfound hmem)

/-- A property of shapes that merging keeps is kept by registration. -/
theorem forall_mem_registerIn {p : Shape → Prop} (hmerge : ∀ a b, p a → p b → p (a.merge b))
    (hshape : p shape) (hshapes : ∀ other ∈ shapes, p other) :
    ∀ other ∈ registerIn shape shapes, p other := by
  induction shapes with
  | nil => exact List.forall_mem_singleton.mpr hshape
  | cons first rest ih =>
    obtain ⟨hfirst, hrest⟩ := List.forall_mem_cons.mp hshapes
    rw [registerIn]
    split
    · exact List.forall_mem_cons.mpr ⟨hmerge first shape hfirst hshape, hrest⟩
    · exact List.forall_mem_cons.mpr ⟨hfirst, ih hrest⟩

/-- A property of shapes that merging keeps holds of all shapes of a table, if it does of those
that are registered. -/
theorem forall_mem_registerAll {p : Shape → Prop} (hmerge : ∀ a b, p a → p b → p (a.merge b))
    (htable : ∀ shape ∈ table.shapes, p shape) (hshapes : ∀ shape ∈ shapes, p shape) :
    ∀ shape ∈ (table.registerAll shapes).shapes, p shape := by
  induction shapes generalizing table with
  | nil => exact htable
  | cons shape shapes ih =>
    obtain ⟨hshape, hrest⟩ := List.forall_mem_cons.mp hshapes
    exact ih (forall_mem_registerIn hmerge hshape htable) hrest

/-! ### The names of a table -/

/-- The names are those under which something is looked up. -/
theorem mem_names_iff : name ∈ table.names ↔ (table.lookup name).isSome := by
  rw [names, (Text.sort_perm _).mem_iff, lookup, List.find?_isSome, List.mem_map]
  simp only [decide_eq_true_eq]

/-- The names are strictly increasing. -/
theorem increasing_names (table : ShapeTable) : Text.Increasing table.names :=
  Text.increasing_sort table.distinct

/-- The names of a table are known by what is looked up in it. -/
theorem names_eq {other : ShapeTable} (h : ∀ name, table.lookup name = other.lookup name) :
    table.names = other.names := by
  refine table.increasing_names.eq_of_mem_iff other.increasing_names fun name => ?_
  rw [mem_names_iff, mem_names_iff, h]

/-- Registrations under different names may be exchanged. -/
theorem lookup_register_comm {a b : Shape} (h : a.name ≠ b.name) (table : ShapeTable)
    (name : Text) :
    ((table.register a).register b).lookup name = ((table.register b).register a).lookup name := by
  simp only [lookup_register]
  by_cases ha : a.name = name
  · have hb : b.name ≠ name := fun hb => h (ha.trans hb.symm)
    simp only [if_pos ha, if_neg hb]
  · simp only [if_neg ha]

/-! ### Copies -/

/-- Shapes of new names come one after the other. -/
theorem registerAll_of_nodup (h : (table.shapes.map Shape.name ++ shapes.map Shape.name).Nodup) :
    (table.registerAll shapes).shapes = table.shapes ++ shapes := by
  induction shapes generalizing table with
  | nil => exact (List.append_nil _).symm
  | cons shape shapes ih =>
    have hnew : shape.name ∉ table.shapes.map Shape.name := fun hmem =>
      List.disjoint_of_nodup_append h hmem List.mem_cons_self
    have hshapes : (table.register shape).shapes = table.shapes ++ [shape] :=
      registerIn_of_not_mem hnew
    have hrest := @ih (table.register shape) (by simpa [hshapes] using h)
    calc (table.registerAll (shape :: shapes)).shapes
        = (table.register shape).shapes ++ shapes := hrest
      _ = table.shapes ++ shape :: shapes := by
        rw [hshapes, List.append_assoc, List.singleton_append]

/-- The table of shapes with distinct names holds them as they are. -/
theorem shapes_ofShapes (h : (shapes.map Shape.name).Nodup) : (ofShapes shapes).shapes = shapes :=
  @registerAll_of_nodup empty shapes h

/-- A copy holds the same shapes. -/
theorem copy_eq (table : ShapeTable) : table.copy = table :=
  ShapeTable.ext (shapes_ofShapes table.distinct)

end ShapeTable

end TemplateLint
