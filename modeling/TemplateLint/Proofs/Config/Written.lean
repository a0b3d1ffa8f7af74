import TemplateLint.Proofs.Method.Registration
import TemplateLint.Proofs.Source.Requirement
import TemplateLint.Proofs.Source.Scanned
import TemplateLint.Report.Record

/-!
# Tables that are written out and read back

The record of a table gives every name the words for the roles of its overloads. A configuration
may list them as its methods, in any order and without the known methods. Main statement: every
such configuration is accepted, and the table that is read from it has the same record.
-/

namespace TemplateLint

namespace ShapeTable

variable {table : ShapeTable} {name : Text}

/-- What is looked up has the name under which it is looked up. -/
theorem name_of_lookup {shape : Shape} (h : table.lookup name = some shape) :
    shape.name = name := by
  have hname := List.find?_some h
  exact of_decide_eq_true hname

/-- Among the shapes of some names, the first one of a name is the one that is looked up. -/
theorem find?_filterMap_lookup (table : ShapeTable) (names : List Text) (name : Text) :
    (names.filterMap table.lookup).find? (fun shape => decide (shape.name = name)) =
      if name ∈ names then table.lookup name else none := by
  induction names with
  | nil => rfl
  | cons first rest ih =>
    rw [List.filterMap_cons]
    cases hfirst : table.lookup first with
    | none =>
      dsimp only
      rw [ih]
      by_cases hname : name = first
      · rw [hname, hfirst, if_pos List.mem_cons_self, ite_self]
      · simp only [List.mem_cons, or_iff_right hname]
    | some shape =>
      dsimp only
      rw [List.find?_cons, name_of_lookup hfirst, ih]
      by_cases hname : first = name
      · rw [decide_eq_true hname, if_pos (List.mem_cons.mpr (.inl hname.symm)), ← hname, hfirst]
      · simp only [hname, decide_false, List.mem_cons, or_iff_right (Ne.symm hname)]

/-- The shapes of distinct names have distinct names. -/
theorem nodup_filterMap_lookup (table : ShapeTable) {names : List Text} (h : names.Nodup) :
    ((names.filterMap table.lookup).map Shape.name).Nodup := by
  have hnames : ((names.filterMap table.lookup).map Shape.name).Sublist names := by
    induction names with
    | nil => exact .slnil
    | cons first rest ih =>
      have hrest := ih (List.nodup_cons.mp h).2
      rw [List.filterMap_cons]
      cases hfirst : table.lookup first with
      | none => exact hrest.cons first
      | some shape =>
        rw [List.map_cons, name_of_lookup hfirst]
        exact hrest.cons_cons first
  exact h.sublist hnames

/-- A member of an object that lists the shapes of a table by name. -/
theorem get?_map_sorted {α : Type} (table : ShapeTable) (f : Shape → α) (name : Text) :
    Assoc.get? (table.sorted.map fun shape => (shape.name, f shape)) name =
      (table.lookup name).map f := by
  have hlookup : table.sorted.find? (fun shape => decide (shape.name = name)) =
      table.lookup name := by
    rw [sorted, find?_filterMap_lookup]
    split
    · rfl
    · next hname =>
      rw [mem_names_iff, Option.not_isSome_iff_eq_none] at hname
      exact hname.symm
  rw [Assoc.get?, List.find?_map, Option.map_map, ← hlookup]
  rfl

/-- Tables have one record if the same is looked up in them. -/
theorem record_eq {other : ShapeTable} (h : ∀ name, table.lookup name = other.lookup name) :
    table.record = other.record := by
  have hfun : table.lookup = other.lookup := funext h
  rw [record, record, sorted, sorted, names_eq h, hfun]

end ShapeTable

/-- The overloads of a shape as lists of words. -/
def Shape.written (shape : Shape) : Json :=
  .array (shape.overloads.map fun overload => Role.list overload.roles)

/-- The overloads are a member of the record of a shape. -/
theorem Shape.get?_record (shape : Shape) :
    shape.record.get? "overloads" = some shape.written := by
  have hsorted : [(Text.ofString "overloads", shape.written),
      (Text.ofString "requires_constant", Json.bool shape.requiresConstant)].Pairwise
        (fun a b => Text.le a.1 b.1 = true) := by
    rw [List.pairwise_pair]
    exact (by decide : Text.le "overloads" "requires_constant" = true)
  have hrecord : shape.record = .object [(Text.ofString "overloads", shape.written),
      (Text.ofString "requires_constant", .bool shape.requiresConstant)] :=
    congrArg Json.object (List.mergeSort_of_pairwise hsorted)
  rw [hrecord]
  rfl

/-- The record of a table gives every name the overloads that are looked up. -/
theorem ShapeTable.get?_record (table : ShapeTable) (name : Text) :
    ((table.record.get? name).bind fun entry => entry.get? "overloads") =
      (table.lookup name).map Shape.written := by
  have hentry : table.record.get? name = (table.lookup name).map Shape.record :=
    table.get?_map_sorted Shape.record name
  rw [hentry, Option.bind_map]
  cases table.lookup name with
  | none => rfl
  | some shape => exact shape.get?_record

namespace Config

open Outcome ShapeTable

/-! ### Reading overloads back -/

/-- The words for roles name them. -/
theorem readRoles_list (method : Text) (roles : List Role) :
    readRoles method (Role.list roles) = .ok roles := by
  refine readRoles_eq_ok_iff.mpr ⟨roles.map Role.name, ?_, ?_⟩
  · rw [Role.list, List.map_map]
    rfl
  · rw [List.forall₂_map_left_iff, List.forall₂_same]
    intro role _
    cases role <;> decide +kernel

/-- The roles of an overload make up this overload. -/
theorem ofRoles_roles (overload : Overload) : Overload.ofRoles overload.roles = .ok overload := by
  unfold Overload.ofRoles
  split
  · rfl
  · next fault hfault =>
    rw [overload.valid] at hfault
    cases hfault

/-- The overloads of a shape are read back. -/
theorem readMethod_written {shape : Shape} (h : shape.overloads ≠ []) :
    readMethod shape.requiresConstant shape.name shape.written = .ok shape := by
  obtain ⟨name, overloads, requiresConstant⟩ := shape
  obtain ⟨first, others, rfl⟩ := List.exists_cons_of_ne_nil h
  have hlists : ((first :: others).map fun overload => Role.list overload.roles).mapM
      (readRoles name) = .ok ((first :: others).map Overload.roles) := by
    rw [mapM_eq_ok_iff, List.map_map, List.map_map]
    exact List.map_congr_left fun overload _ => readRoles_list name overload.roles
  have hoverloads : ((first :: others).map Overload.roles).mapM (fun roles =>
      (Overload.ofRoles roles).mapError (Fault.badOverload name)) = .ok (first :: others) := by
    rw [mapM_eq_ok_iff, List.map_map]
    refine List.map_congr_left fun overload _ => ?_
    rw [Function.comp_apply, ofRoles_roles]
    rfl
  rw [List.map_cons] at hlists
  rw [Shape.written, List.map_cons, readMethod, hlists, ok_bind, hoverloads]
  rfl

/-! ### Tables of configurations -/

/-- The table of a configuration is made from its methods and perhaps the known ones. -/
theorem shapes_of_ofJson {value : Json} {config : Config} (h : ofJson value = .ok config) :
    ∃ draft, readDraft value = .ok draft ∧ config.shapes =
      (if draft.replaceDefaults then ShapeTable.empty
        else defaultShapes draft.requireConstant).registerAll draft.added := by
  obtain ⟨draft, hdraft, hfinish⟩ := bind_eq_ok h
  obtain ⟨rules, _, hfinish⟩ := bind_eq_ok hfinish
  obtain ⟨types, _, hfinish⟩ := bind_eq_ok hfinish
  obtain ⟨classes, _, hfinish⟩ := bind_eq_ok hfinish
  cases hfinish
  exact ⟨draft, hdraft, rfl⟩

/-- Merging does not remove overloads. -/
theorem overloads_merge_ne_nil (a b : Shape) (ha : a.overloads ≠ []) (_ : b.overloads ≠ []) :
    (a.merge b).overloads ≠ [] := by
  have hmerge : (a.merge b).overloads = b.overloads.foldl Shape.addOverload a.overloads := rfl
  rw [hmerge, Shape.foldl_addOverload]
  exact List.append_ne_nil_of_left_ne_nil ha _

/-- A method that is read has an overload. -/
theorem overloads_ne_nil_of_readMethod {requiresConstant : Bool} {name : Text} {value : Json}
    {shape : Shape} (h : readMethod requiresConstant name value = .ok shape) :
    shape.overloads ≠ [] := by
  unfold readMethod at h
  split at h
  · obtain ⟨lists, hlists, h⟩ := bind_eq_ok h
    obtain ⟨overloads, hoverloads, h⟩ := bind_eq_ok h
    cases h
    rw [← List.length_pos_iff, length_of_mapM hoverloads, length_of_mapM hlists]
    exact Nat.succ_pos _
  · cases h

/-- Every known method has an overload. -/
theorem overloads_ne_nil_of_mem_defaultShapes (requiresConstant : Bool) :
    ∀ shape ∈ (defaultShapes requiresConstant).shapes, shape.overloads ≠ [] := by
  have hknown : ∀ shape ∈ ShapeTable.default.shapes, shape.overloads ≠ [] := by decide +kernel
  intro shape hshape
  obtain ⟨known, hmem, rfl⟩ := List.mem_map.mp hshape
  exact hknown known hmem

/-- Every shape of a configuration has an overload. -/
theorem overloads_ne_nil_of_ofJson {value : Json} {config : Config}
    (h : ofJson value = .ok config) : ∀ shape ∈ config.shapes.shapes, shape.overloads ≠ [] := by
  obtain ⟨draft, hdraft, hshapes⟩ := shapes_of_ofJson h
  obtain ⟨_, _, _, _, hadded⟩ := readDraft_eq_ok_iff.mp hdraft
  rw [hshapes]
  refine forall_mem_registerAll overloads_merge_ne_nil ?_ fun shape hshape => ?_
  · split
    · exact List.forall_mem_nil _
    · exact overloads_ne_nil_of_mem_defaultShapes _
  · unfold readMethods at hadded
    split at hadded
    · have hnone : [] = draft.added := Except.ok.inj hadded
      rw [← hnone] at hshape
      cases hshape
    · obtain ⟨member, _, hread⟩ := exists_of_mem_mapM hadded hshape
      exact overloads_ne_nil_of_readMethod hread
    · cases hadded

/-! ### Reading a table back -/

/-- Names of the members that decide the table. -/
def tableKeys : List Text :=
  ["methods", "replace_default_methods", "require_constant_template"]

/-- An object that lists the methods of a configuration again: every name of the record of the
table with the overloads of its entry, in place of the known methods and with the requirement of
the configuration. -/
structure Restates (config : Config) (members : Assoc Json) : Prop where
  /-- There are no other members. -/
  known : ∀ key ∈ members.keys, key ∈ tableKeys
  /-- The methods are those of the record, each with its overloads. -/
  methods : ∃ methods : Assoc Json, members.get? "methods" = some (.object methods) ∧
    methods.keys.Nodup ∧ ∀ name, methods.get? name =
      (config.shapes.record.get? name).bind fun entry => entry.get? "overloads"
  /-- The known methods are left out. -/
  replaceDefaults : members.get? "replace_default_methods" = some (.bool true)
  /-- Whether templates have to be constants is as before. -/
  requireConstant : readSwitch members "require_constant_template" true = .ok config.requireConstant

/-- A name is a key exactly when it has a value. -/
theorem mem_keys_iff {members : Assoc Json} {key : Text} :
    key ∈ members.keys ↔ (members.get? key).isSome := by
  unfold Assoc.keys Assoc.get?
  rw [Option.isSome_map, List.find?_isSome, List.mem_map]
  simp only [decide_eq_true_eq]

/-- A member of an object with distinct keys is the value of its key. -/
theorem get?_of_mem {members : Assoc Json} {member : Text × Json} (hkeys : members.keys.Nodup)
    (h : member ∈ members) : members.get? member.1 = some member.2 := by
  obtain ⟨front, back, rfl⟩ := List.append_of_mem h
  have hfront : ∀ other ∈ front, other.1 ≠ member.1 := by
    intro other hother heq
    rw [Assoc.keys, List.map_append, List.map_cons] at hkeys
    exact List.disjoint_of_nodup_append hkeys (List.mem_map_of_mem hother)
      (List.mem_cons.mpr (.inl heq))
  rw [Assoc.get?, List.find?_append, List.find?_eq_none.mpr fun other hother => by
    simpa using hfront other hother]
  simp

/-- Members that are the written forms of what is looked up under their names are read as these
shapes. -/
theorem mapM_readMethod_eq {table : ShapeTable} {requiresConstant : Bool} {methods : Assoc Json}
    (h : ∀ member ∈ methods, ∃ shape, table.lookup member.1 = some shape ∧
      readMethod requiresConstant member.1 member.2 = .ok shape) :
    methods.mapM (fun member => readMethod requiresConstant member.1 member.2) =
      .ok (methods.keys.filterMap table.lookup) := by
  induction methods with
  | nil => rfl
  | cons member methods ih =>
    obtain ⟨⟨shape, hlookup, hread⟩, hrest⟩ := List.forall_mem_cons.mp h
    have hkeys : Assoc.keys (member :: methods) = member.1 :: Assoc.keys methods := rfl
    rw [List.mapM_cons, hread, ok_bind, ih hrest, ok_bind, hkeys, List.filterMap_cons, hlookup]
    rfl

/-- The first stage of reading a restatement gives the shapes of the table, each under a name of
its own. -/
theorem exists_readDraft_of_restates {value : Json} {config : Config}
    (h : ofJson value = .ok config) {members : Assoc Json} (hmembers : config.Restates members) :
    ∃ (draft : Draft) (names : List Text), readDraft (.object members) = .ok draft ∧
      draft.members = members ∧ draft.replaceDefaults = true ∧
      draft.added = names.filterMap config.shapes.lookup ∧ names.Nodup ∧
      ∀ name, name ∈ names ↔ (config.shapes.lookup name).isSome := by
  obtain ⟨methods, hmethods, hkeys, hget⟩ := hmembers.methods
  have hwritten : ∀ name, methods.get? name = (config.shapes.lookup name).map Shape.written :=
    fun name => (hget name).trans (config.shapes.get?_record name)
  have hread : ∀ member ∈ methods, ∃ shape, config.shapes.lookup member.1 = some shape ∧
      readMethod config.requireConstant member.1 member.2 = .ok shape := by
    intro member hmember
    have hvalue := (hwritten member.1).symm.trans (get?_of_mem hkeys hmember)
    obtain ⟨shape, hshape, hform⟩ := Option.map_eq_some_iff.mp hvalue
    have hmem := List.mem_of_find?_eq_some hshape
    have hrequires := (uniform_of_ofJson h).2 shape hmem
    refine ⟨shape, hshape, ?_⟩
    rw [← hform, ← hrequires, ← name_of_lookup hshape]
    exact readMethod_written (overloads_ne_nil_of_ofJson h shape hmem)
  have hsubset : ∀ key ∈ tableKeys, key ∈ knownKeys := by decide
  refine ⟨{ members, requireConstant := config.requireConstant, replaceDefaults := true
            added := methods.keys.filterMap config.shapes.lookup },
    methods.keys, ?_, rfl, rfl, rfl, hkeys, fun name => ?_⟩
  · refine readDraft_eq_ok_iff.mpr ⟨rfl, fun key hkey => hsubset key (hmembers.known key hkey),
      hmembers.requireConstant, ?_, ?_⟩
    · rw [readSwitch, hmembers.replaceDefaults]
    · rw [hmethods]
      exact mapM_readMethod_eq hread
  · rw [mem_keys_iff, hwritten, Option.isSome_map]

/-- A table that is read from a restatement has the same shapes under the same names. -/
theorem exists_ofJson_of_restates {value : Json} {config : Config} (h : ofJson value = .ok config)
    {members : Assoc Json} (hmembers : config.Restates members) :
    ∃ again, ofJson (.object members) = .ok again ∧
      ∀ name, again.shapes.lookup name = config.shapes.lookup name := by
  obtain ⟨draft, names, hdraft, rfl, hreplace, hadded, hnodup, hnames⟩ :=
    exists_readDraft_of_restates h hmembers
  have habsent : ∀ key, key ∉ tableKeys → ∀ form, Optional draft.members key form := by
    intro key hkey form found hfound
    have hmem : key ∈ draft.members.keys := mem_keys_iff.mpr (by rw [hfound]; rfl)
    exact absurd (hmembers.known key hmem) hkey
  obtain ⟨again, hfinish⟩ := Draft.finish_isOk_iff.mpr ⟨habsent "disabled_rules" (by decide) _,
    habsent "exception_types" (by decide) _, habsent "extension_classes" (by decide) _⟩
  have hagain : ofJson (.object draft.members) = .ok again := by
    rw [ofJson, hdraft, ok_bind]
    exact hfinish
  have htable : again.shapes.shapes = names.filterMap config.shapes.lookup := by
    obtain ⟨other, hother, hshapes⟩ := shapes_of_ofJson hagain
    cases hdraft.symm.trans hother
    rw [hshapes, if_pos hreplace, hadded]
    exact shapes_ofShapes (nodup_filterMap_lookup config.shapes hnodup)
  refine ⟨again, hagain, fun name => ?_⟩
  rw [lookup, htable, find?_filterMap_lookup]
  split
  · rfl
  · next hname =>
    rw [hnames, Option.not_isSome_iff_eq_none] at hname
    exact hname.symm

/-- The methods of a configuration, listed again in the order of their names. -/
def restatement (config : Config) : Assoc Json :=
  [("methods", .object (config.shapes.sorted.map fun shape => (shape.name, shape.written))),
    ("replace_default_methods", .bool true),
    ("require_constant_template", .bool config.requireConstant)]

/-- The methods of a configuration can be listed again. -/
theorem restates_restatement (config : Config) : config.Restates config.restatement where
  known := fun _ => id
  methods := by
    refine ⟨_, rfl, ?_, fun name => ?_⟩
    · have hnames : config.shapes.names.Nodup := config.shapes.increasing_names.imp And.right
      rw [Assoc.keys, List.map_map]
      exact nodup_filterMap_lookup config.shapes hnames
    · rw [config.shapes.get?_map_sorted, config.shapes.get?_record]
  replaceDefaults := rfl
  requireConstant := rfl

/-- A shape table survives being written out and read back. For every value that is read as a
configuration there are objects that list the methods of its table again, and every such object
is read as a configuration whose table has the same record. -/
theorem table_read_back {value : Json} {config : Config} (h : ofJson value = .ok config) :
    (∃ members, config.Restates members) ∧
      ∀ members, config.Restates members →
        ∃ again, ofJson (.object members) = .ok again ∧
          again.shapes.record = config.shapes.record := by
  refine ⟨⟨_, restates_restatement config⟩, fun members hmembers => ?_⟩
  obtain ⟨again, hagain, hlookup⟩ := exists_ofJson_of_restates h hmembers
  exact ⟨again, hagain, record_eq hlookup⟩

/-- A new method with an overload that is listed twice, with its role in another spelling, and a
known method with a further overload, beside the known methods. -/
theorem table_read_back_repeated :
    let value : Json := .object
      [("methods", .object
          [("Audit", .array [.array [.string " Template"], .array [.string "TEMPLATE"]]),
            ("LogError", .array [.array [.string "other", .string "template"]])]),
        ("require_constant_template", .bool false)]
    ∃ config again, ofJson value = .ok config ∧
      (config.shapes.lookup "Audit").map (fun shape => shape.overloads.map Overload.roles) =
        some [[.template], [.template]] ∧
      config.Restates config.restatement ∧
      ofJson (.object config.restatement) = .ok again ∧
      again.shapes.record = config.shapes.record := by
  intro value
  have hvalue : ((ofJson value).toOption.bind fun config => config.shapes.lookup "Audit").map
      (fun shape => shape.overloads.map Overload.roles) = some [[.template], [.template]] := by
    decide +kernel
  obtain ⟨config, hconfig⟩ : ∃ config, ofJson value = .ok config := by
    cases hread : ofJson value with
    | error fault =>
      rw [hread] at hvalue
      cases hvalue
    | ok config => exact ⟨config, rfl⟩
  rw [hconfig] at hvalue
  have hmembers := restates_restatement config
  obtain ⟨again, hagain, hrecord⟩ := (table_read_back hconfig).2 _ hmembers
  exact ⟨config, again, hconfig, hvalue, hmembers, hagain, hrecord⟩

end Config

end TemplateLint
