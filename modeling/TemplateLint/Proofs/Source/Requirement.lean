import TemplateLint.Proofs.Config.Schema
import TemplateLint.Proofs.Method.Registration
import TemplateLint.Proofs.Source.Location
import TemplateLint.Proofs.Call.Misplaced

/-!
# One requirement for all shapes

A configuration says once whether templates have to be constants. Shapes come from three
sides, the known methods, the methods of the configuration and the marked methods of a source,
and shapes of one name are merged. Main statement: in the table with which the calls of a
source are read, every shape has the requirement of the configuration; if there is none, no
template is reported for not being a constant.
-/

namespace TemplateLint

namespace ShapeTable

/-- Every shape of the table has the same requirement. -/
def Uniform (requiresConstant : Bool) (table : ShapeTable) : Prop :=
  ∀ shape ∈ table.shapes, shape.requiresConstant = requiresConstant

variable {requiresConstant : Bool} {table : ShapeTable}

/-- Registering any number of shapes with one requirement keeps it. -/
theorem Uniform.registerAll {shapes : List Shape} (h : table.Uniform requiresConstant)
    (hall : ∀ shape ∈ shapes, shape.requiresConstant = requiresConstant) :
    (table.registerAll shapes).Uniform requiresConstant := by
  refine forall_mem_registerAll (fun a b ha hb => ?_) h hall
  rw [Shape.merge, ha, hb, Bool.and_self]

/-- The empty table has every requirement. -/
theorem uniform_empty : empty.Uniform requiresConstant :=
  List.forall_mem_nil _

/-- A copy has the requirement of its table. -/
theorem Uniform.copy (h : table.Uniform requiresConstant) : table.copy.Uniform requiresConstant :=
  uniform_empty.registerAll h

/-- A shape that is looked up has the requirement of its table. -/
theorem Uniform.lookup {name : Text} {shape : Shape} (h : table.Uniform requiresConstant)
    (hshape : table.lookup name = some shape) : shape.requiresConstant = requiresConstant :=
  h shape (List.mem_of_find?_eq_some hshape)

end ShapeTable

namespace Config

open Outcome

/-- The known methods get the requirement of the configuration. -/
theorem uniform_defaultShapes (requiresConstant : Bool) :
    (defaultShapes requiresConstant).Uniform requiresConstant := by
  intro shape hshape
  obtain ⟨known, _, rfl⟩ := List.mem_map.mp hshape
  rfl

/-- The shape of a method gets the requirement of the configuration. -/
theorem requiresConstant_of_readMethod {requiresConstant : Bool} {name : Text} {value : Json}
    {shape : Shape} (h : readMethod requiresConstant name value = .ok shape) :
    shape.requiresConstant = requiresConstant := by
  unfold readMethod at h
  split at h
  · obtain ⟨lists, _, h⟩ := bind_eq_ok h
    obtain ⟨overloads, _, h⟩ := bind_eq_ok h
    cases h
    rfl
  · cases h

/-- The shapes of the methods get the requirement of the configuration. -/
theorem requiresConstant_of_mem_readMethods {requiresConstant : Bool} {value : Option Json}
    {shapes : List Shape} (h : readMethods requiresConstant value = .ok shapes) :
    ∀ shape ∈ shapes, shape.requiresConstant = requiresConstant := by
  intro shape hshape
  unfold readMethods at h
  split at h
  · cases h
    cases hshape
  · obtain ⟨member, _, hread⟩ := exists_of_mem_mapM h hshape
    exact requiresConstant_of_readMethod hread
  · cases h

/-- What the member of a configuration says about templates. -/
def requirementOf (value : Json) : Bool :=
  match value.get? "require_constant_template" with
  | some (.bool state) => state
  | _ => true

/-- A configuration that is read has the requirement that its member states, and so has every
shape of its table. -/
theorem uniform_of_ofJson {value : Json} {config : Config} (h : ofJson value = .ok config) :
    config.requireConstant = requirementOf value ∧
      config.shapes.Uniform config.requireConstant := by
  obtain ⟨draft, hdraft, hfinish⟩ := bind_eq_ok h
  obtain ⟨hvalue, _, hrequire, _, hadded⟩ := readDraft_eq_ok_iff.mp hdraft
  obtain ⟨rules, _, hfinish⟩ := bind_eq_ok hfinish
  obtain ⟨types, _, hfinish⟩ := bind_eq_ok hfinish
  obtain ⟨classes, _, hfinish⟩ := bind_eq_ok hfinish
  cases hfinish
  constructor
  · unfold readSwitch at hrequire
    rw [hvalue, requirementOf, Json.get?]
    split at hrequire <;> simp_all
  · refine ShapeTable.Uniform.registerAll ?_ (requiresConstant_of_mem_readMethods hadded)
    split
    · exact ShapeTable.uniform_empty
    · exact uniform_defaultShapes _

end Config

/-- The shapes of marked methods get the requirement that is given. -/
theorem Declare.requiresConstant_of_mem_markedShapes (requiresConstant : Bool)
    (notes : List MarkNote) :
    ∀ shape ∈ markedShapes requiresConstant notes, shape.requiresConstant = requiresConstant := by
  refine ShapeTable.Uniform.registerAll ShapeTable.uniform_empty fun shape hshape => ?_
  obtain ⟨note, _, hnote⟩ := List.mem_filterMap.mp hshape
  cases note with
  | found name line overload extended =>
    cases hnote
    rfl
  | _ => cases hnote

/-- A template is reported for not being a constant only by a shape that requires one. -/
theorem CallSite.requiresConstant_of_mem_analyze {call : CallSite} {table : ShapeTable}
    {found : List Diagnostic} {d : Diagnostic} (h : call.analyze table = .ok found)
    (hd : d ∈ found) (hrule : d.rule = .nonConstantTemplate) :
    ∃ shape, table.lookup call.method = some shape ∧ shape.requiresConstant = true := by
  obtain ⟨shape, binding, template, hshape, _, _, hparts⟩ := exists_of_mem_analyze h hd
  refine ⟨shape, hshape, ?_⟩
  have hexception : ∀ {values : List Argument} {indices : List Int} {target : Int},
      d ∉ exceptionDiagnostics values indices target := by
    intro values indices target hmem
    obtain ⟨pair, _, rfl⟩ := List.mem_map.mp hmem
    cases hrule
  unfold analyzeParts at hparts
  dsimp only at hparts
  split at hparts
  · obtain ⟨own, hown, hparts⟩ := Outcome.bind_eq_ok hparts
    cases hparts
    rcases List.mem_append.mp hd with htemplate | hmem
    · exact absurd hrule (rule_ne_of_mem_templateDiagnostics hown htemplate).2
    · exact absurd hmem hexception
  · cases hparts
    rcases List.mem_append.mp hd with htemplate | hmem
    · split at htemplate
      · next hrequired => simpa using hrequired
      · cases htemplate
    · exact absurd hmem hexception

namespace Source

/-- The table with which the calls of a source are read has one requirement if that of the
configuration has it. -/
theorem uniform_prepare {text : Text} {config : Config} {file : Option Text}
    (h : config.shapes.Uniform config.requireConstant) :
    (prepare text config file).config.shapes.Uniform config.requireConstant :=
  h.copy.registerAll (Declare.requiresConstant_of_mem_markedShapes _ _)

/-- The switch of a configuration reaches every shape with which the calls of a source are
read, wherever the shape comes from; if templates need not be constants, none is reported for
not being one. -/
theorem requirement_reaches_every_shape {value : Json} {config : Config}
    (h : Config.ofJson value = .ok config) (text : Text) (file : Option Text) :
    config.requireConstant = Config.requirementOf value ∧
      (∀ shape ∈ (prepare text config file).config.shapes.shapes,
        shape.requiresConstant = config.requireConstant) ∧
      (config.requireConstant = false →
        ∀ found, (analyze text config file).result = .ok found →
          ∀ d ∈ found, d.rule ≠ .nonConstantTemplate) := by
  obtain ⟨hswitch, huniform⟩ := Config.uniform_of_ofJson h
  have hprepared := @uniform_prepare text config file huniform
  refine ⟨hswitch, hprepared, fun hoff found hfound d hd hrule => ?_⟩
  obtain ⟨scanned, _, own, hown, hmem⟩ := exists_of_mem_analyze hfound hd
  obtain ⟨all, hall, rfl⟩ := Outcome.map_eq_ok hown
  obtain ⟨shape, hshape, hrequired⟩ :=
    CallSite.requiresConstant_of_mem_analyze hall (List.mem_of_mem_filter hmem) hrule
  have hfree := hprepared.lookup hshape
  rw [hrequired, hoff] at hfree
  cases hfree

/-- Three shapes of one name, a known one, one of the configuration and one that is marked in the
source, are merged into one that does not require a constant, and a call of it with a variable
for its template is not reported. -/
theorem requirement_reaches_every_shape_merged :
    let value : Json := .object [("require_constant_template", .bool false),
      ("methods", .object [("Error", .array [.array [.string "template"]])])]
    let text : Text :=
      "[MessageTemplateFormatMethod(\"m\")] void Error(string m, int n) \x7b Error(x); \x7d"
    ∃ config, Config.ofJson value = .ok config ∧
      ((prepare text config none).config.shapes.lookup "Error").map (·.overloads.length) =
        some 4 ∧
      (∀ shape ∈ (prepare text config none).config.shapes.shapes,
        shape.requiresConstant = false) ∧
      (analyze text config none).result = .ok [] := by
  intro value text
  have hread : ((Config.ofJson value).toOption.map fun config =>
      (((prepare text config none).config.shapes.lookup "Error").map (·.overloads.length),
        (analyze text config none).result)) = some (some 4, .ok []) := by decide +kernel
  cases h : Config.ofJson value with
  | error failure =>
    rw [h] at hread
    cases hread
  | ok config =>
    rw [h] at hread
    obtain ⟨hcount, hresult⟩ := Prod.mk.inj (Option.some.inj hread)
    obtain ⟨hswitch, hshapes, _⟩ := requirement_reaches_every_shape h text none
    have hoff : config.requireConstant = false := hswitch
    rw [hoff] at hshapes
    exact ⟨config, rfl, hcount, hshapes, hresult⟩

end Source

end TemplateLint
