import TemplateLint.Call.Analysis
import TemplateLint.Proofs.Template.Place

/-!
# What a diagnostic speaks of

A diagnostic of a call speaks of a range of the template, which is a fault or a property,
or of a whole argument. Its rule and its message tell which, and it stands at the place
of what it speaks of.
-/

namespace TemplateLint

namespace Template

/-- Whether a mismatch is reported at a property; the others are reported at a value. -/
def Mismatch.isOfProperty : Mismatch → Bool
  | .mixed => true
  | .unboundName _ => true
  | .unboundIndex _ => true
  | .surplus => false
  | .noProperties => false
  | .unusedPosition => false

/-- How the messages about properties begin. -/
theorem Mismatch.take_message_of_property {mismatch : Mismatch}
    (h : mismatch.isOfProperty = true) :
    mismatch.message.take 13 = Text.ofString "Positional pr" ∨
      mismatch.message.take 13 = Text.ofString "There is no a" := by
  cases mismatch with
  | mixed => exact .inl rfl
  | unboundName name => exact .inr rfl
  | unboundIndex index => exact .inr rfl
  | surplus => cases h
  | noProperties => cases h
  | unusedPosition => cases h

/-- How the messages about values begin. -/
theorem Mismatch.take_message_of_value {mismatch : Mismatch}
    (h : mismatch.isOfProperty = false) :
    mismatch.message.take 13 = Text.ofString "There is no n" ∨
      mismatch.message.take 13 = Text.ofString "There is no p" := by
  cases mismatch with
  | mixed => cases h
  | unboundName name => cases h
  | unboundIndex index => cases h
  | surplus => exact .inl rfl
  | noProperties => exact .inr rfl
  | unusedPosition => exact .inr rfl

/-- The message tells whether a mismatch is reported at a property or at a value. -/
theorem Mismatch.message_ne {a b : Mismatch} (ha : a.isOfProperty = true)
    (hb : b.isOfProperty = false) : a.message ≠ b.message := by
  intro h
  have hfront := congrArg (List.take 13) h
  rcases take_message_of_property ha with hleft | hleft <;>
    rcases take_message_of_value hb with hright | hright <;>
    rw [hleft, hright] at hfront <;>
    exact absurd hfront (by decide)

/-- The diagnostics that a property can have. -/
inductive IsAbout (hole : Property) : Diagnostic → Prop
  /-- The property is positional and stands with named ones. -/
  | mixed {span : Span} (h : hole.isPositional = true) : IsAbout hole (Mismatch.mixed.at span)
  /-- The named property has no value. -/
  | unboundName {span : Span} : IsAbout hole ((Mismatch.unboundName hole.name).at span)
  /-- The positional property has no value. -/
  | unboundIndex {index : Nat} {span : Span} (h : hole.index = some index) :
    IsAbout hole ((Mismatch.unboundIndex index).at span)
  /-- An earlier property has the same name. -/
  | duplicate {span : Span} : IsAbout hole (duplicateAt hole.name span)
  /-- The name starts with a small letter. -/
  | smallLetter {span : Span} : IsAbout hole (smallLetterAt hole.name span)

/-- The range of a template, as start and length, of which a diagnostic speaks. -/
inductive Names (value : Text) (d : Diagnostic) : Nat → Nat → Prop
  /-- The template has a fault, and the diagnostic is its report. -/
  | fault {fault : Fault} (hparse : parse value = .error (.malformed fault))
      (hrule : d.rule = .parseError) (hmessage : d.message = fault.cause.message) :
    Names value d fault.start fault.length
  /-- The template has a property that the diagnostic is about. -/
  | property {segments : List Segment} {hole : Property} (hparse : parse value = .ok segments)
      (hmem : hole ∈ properties segments) (habout : IsAbout hole d) :
    Names value d hole.start hole.length

/-- The range of which a diagnostic speaks lies in the template. -/
theorem Names.bounds {value : Text} {d : Diagnostic} {start count : Nat}
    (h : Names value d start count) : start + count ≤ value.length := by
  cases h with
  | fault hparse => exact (fault_bounds hparse).2
  | property hparse hmem => exact property_bounds hparse hmem

/-- A diagnostic stands at the property that it is about. -/
def AtProperty (holes : List Property) (locate : Span → Span) (d : Diagnostic) : Prop :=
  ∃ hole ∈ holes, IsAbout hole d ∧ d.span = locate hole.span

/-- A diagnostic stands at a value that has no property. -/
def AtValue (values : List Span) (d : Diagnostic) : Prop :=
  ∃ span ∈ values, ∃ mismatch : Mismatch, mismatch.isOfProperty = false ∧ d = mismatch.at span

variable {holes : List Property} {values : List Span} {locate : Span → Span} {d : Diagnostic}

/-- Binding by order reports properties and values at their places. -/
theorem anchored_of_mem_bindNamed (h : d ∈ bindNamed holes values locate) :
    AtProperty holes locate d ∨ AtValue values d := by
  rcases List.mem_append.mp h with hhole | hvalue
  · obtain ⟨hole, hmem, rfl⟩ := List.mem_map.mp hhole
    exact .inl ⟨hole, List.mem_of_mem_drop hmem, .unboundName, rfl⟩
  · obtain ⟨span, hmem, rfl⟩ := List.mem_map.mp hvalue
    refine .inr ⟨span, List.mem_of_mem_drop hmem, _, ?_, rfl⟩
    split <;> rfl

/-- Binding by index reports properties and values at their places. -/
theorem anchored_of_mem_bindPositional (h : d ∈ bindPositional holes values locate) :
    AtProperty holes locate d ∨ AtValue values d := by
  rcases List.mem_append.mp h with hhole | hvalue
  · obtain ⟨index, _, hindex⟩ := List.mem_filterMap.mp hhole
    obtain ⟨hole, hfind, rfl⟩ := Option.map_eq_some_iff.mp hindex
    have hfound := List.find?_some hfind
    refine .inl ⟨hole, List.mem_of_find?_eq_some hfind, .unboundIndex ?_, rfl⟩
    exact of_decide_eq_true hfound
  · obtain ⟨value, hmem, rfl⟩ := List.mem_map.mp hvalue
    have hspan := List.fst_mem_of_mem_zipIdx (List.mem_of_mem_filter hmem)
    exact .inr ⟨value.1, hspan, .unusedPosition, rfl, rfl⟩

/-- Binding reports properties and values at their places. -/
theorem anchored_of_mem_bind {segments : List Segment} (h : d ∈ bind segments values locate) :
    AtProperty (properties segments) locate d ∨ AtValue values d := by
  unfold bind at h
  dsimp only at h
  split at h
  · exact anchored_of_mem_bindNamed h
  · next first rest hfilter =>
    split at h
    · exact anchored_of_mem_bindPositional h
    · rcases List.mem_cons.mp h with rfl | hnamed
      · have hfirst : first ∈ (properties segments).filter Property.isPositional := by
          rw [hfilter]
          exact List.mem_cons_self
        obtain ⟨hmem, hpositional⟩ := List.mem_filter.mp hfirst
        exact .inl ⟨first, hmem, .mixed hpositional, rfl⟩
      · exact anchored_of_mem_bindNamed hnamed

/-- The checks of names report properties at their places. -/
theorem atProperty_of_mem_checkNames {seen : List Text} (h : d ∈ checkNames locate seen holes) :
    AtProperty holes locate d := by
  induction holes generalizing seen with
  | nil => cases h
  | cons hole rest ih =>
    rw [checkNames] at h
    rcases List.mem_append.mp h with hfirst | hrest
    · refine ⟨hole, List.mem_cons_self, ?_⟩
      rcases List.mem_append.mp hfirst with hduplicate | hsmall
      · split at hduplicate
        · cases List.mem_singleton.mp hduplicate
          exact ⟨.duplicate, rfl⟩
        · cases hduplicate
      · split at hsmall
        · cases List.mem_singleton.mp hsmall
          exact ⟨.smallLetter, rfl⟩
        · cases hsmall
    · obtain ⟨later, hmem, habout⟩ := ih hrest
      exact ⟨later, List.mem_cons_of_mem _ hmem, habout⟩

/-- The faults of names are reported at the properties that have them. -/
theorem atProperty_of_mem_naming {segments : List Segment} (h : d ∈ naming segments locate) :
    AtProperty (properties segments) locate d := by
  obtain ⟨hole, hmem, habout⟩ := atProperty_of_mem_checkNames h
  exact ⟨hole, List.mem_of_mem_filter hmem, habout⟩

end Template

/-- Whether a diagnostic speaks of a range of the template: it reports a fault or a name,
or a mismatch in the words that are used of properties. -/
def Diagnostic.IsOfTemplate (d : Diagnostic) : Prop :=
  d.rule = .parseError ∨ d.rule = .duplicateName ∨ d.rule = .nonPascalCase ∨
    d.rule = .bindError ∧
      ∃ mismatch : Template.Mismatch, mismatch.isOfProperty = true ∧ d.message = mismatch.message

/-- The place at which a diagnostic stands: the range of the template of which it speaks,
or a whole argument. -/
inductive Anchored (args : List Argument) (template : Argument) (d : Diagnostic) : Prop
  /-- The diagnostic speaks of a range of the template. -/
  | part {value : Text} {start count : Nat} (hvalue : template.template? = some value)
      (hnames : Template.Names value d start count)
      (hspan : d.span = template.locate (.relative start count))
  /-- The diagnostic speaks of an argument. -/
  | argument {arg : Argument} (hmem : arg ∈ args) (hspan : d.span = arg.span)
      (hother : ¬ d.IsOfTemplate)

/-- More arguments leave a place for a diagnostic. -/
theorem Anchored.mono {args more : List Argument} {template : Argument} {d : Diagnostic}
    (h : Anchored args template d) (hsub : args ⊆ more) : Anchored more template d := by
  cases h with
  | part hvalue hnames hspan => exact .part hvalue hnames hspan
  | argument hmem hspan hother => exact .argument (hsub hmem) hspan hother

variable {template : Argument} {values : List Argument} {d : Diagnostic}

/-- A diagnostic about a property stands at the range of this property. -/
theorem anchored_of_atProperty {value : Text} {segments : List Template.Segment}
    (hvalue : template.template? = some value) (hparse : Template.parse value = .ok segments)
    (h : Template.AtProperty (Template.properties segments) template.locate d) :
    Anchored (template :: values) template d := by
  obtain ⟨hole, hmem, habout, hspan⟩ := h
  exact .part hvalue (.property hparse hmem habout) hspan

/-- A diagnostic about a value without a property stands at this value. -/
theorem anchored_of_atValue (h : Template.AtValue (values.map Argument.span) d) :
    Anchored (template :: values) template d := by
  obtain ⟨span, hmem, mismatch, hvalue, rfl⟩ := h
  obtain ⟨arg, harg, rfl⟩ := List.mem_map.mp hmem
  refine .argument (List.mem_cons_of_mem _ harg) rfl ?_
  rintro (hrule | hrule | hrule | ⟨_, other, hproperty, hmessage⟩)
  · cases hrule
  · cases hrule
  · cases hrule
  · exact Template.Mismatch.message_ne hproperty hvalue hmessage.symm

/-- The diagnostics of a constant template stand at what they speak of. -/
theorem anchored_of_mem_templateDiagnostics {value : Text} {found : List Diagnostic}
    (hvalue : template.template? = some value)
    (h : templateDiagnostics template value values = .ok found) (hd : d ∈ found) :
    Anchored (template :: values) template d := by
  unfold templateDiagnostics at h
  split at h
  · cases h
  · next fault hparse =>
    cases h
    cases List.mem_singleton.mp hd
    exact .part hvalue (.fault hparse rfl rfl) rfl
  · next segments hparse =>
    cases h
    rcases List.mem_append.mp hd with hbind | hnaming
    · rcases Template.anchored_of_mem_bind hbind with hproperty | hat
      · exact anchored_of_atProperty hvalue hparse hproperty
      · exact anchored_of_atValue hat
    · exact anchored_of_atProperty hvalue hparse (Template.atProperty_of_mem_naming hnaming)

/-- The diagnostic of an exception stands at the exception. -/
theorem anchored_of_mem_exceptionDiagnostics {indices : List Int} {target : Int}
    (hd : d ∈ exceptionDiagnostics values indices target) :
    Anchored (template :: values) template d := by
  obtain ⟨pair, hpair, rfl⟩ := List.mem_map.mp hd
  have hmem : pair.2 ∈ values := (List.of_mem_zip (List.mem_of_mem_filter hpair)).2
  refine .argument (List.mem_cons_of_mem _ hmem) rfl ?_
  rintro (hrule | hrule | hrule | ⟨hrule, _⟩) <;> cases hrule

/-- The diagnostics of a template and its values stand at what they speak of. -/
theorem anchored_of_mem_analyzeParts {shape : Option Shape} {indices : List Int} {target : Int}
    {found : List Diagnostic} (h : analyzeParts template values shape indices target = .ok found)
    (hd : d ∈ found) : Anchored (template :: values) template d := by
  unfold analyzeParts at h
  dsimp only at h
  split at h
  · next value hvalue =>
    obtain ⟨own, hown, h⟩ := Outcome.bind_eq_ok h
    cases h
    rcases List.mem_append.mp hd with htemplate | hexception
    · exact anchored_of_mem_templateDiagnostics hvalue hown htemplate
    · exact anchored_of_mem_exceptionDiagnostics hexception
  · cases h
    rcases List.mem_append.mp hd with htemplate | hexception
    · split at htemplate
      · cases List.mem_singleton.mp htemplate
        refine .argument List.mem_cons_self rfl ?_
        rintro (hrule | hrule | hrule | ⟨hrule, _⟩) <;> cases hrule
      · cases htemplate
    · exact anchored_of_mem_exceptionDiagnostics hexception

/-- The argument of a call that is read as its template. -/
def CallSite.template? (call : CallSite) (table : ShapeTable) : Option Argument :=
  ((table.lookup call.method).bind call.match?).bind fun binding =>
    call.arguments[binding.templateIndex]?

/-- The literal that is the whole template of a call. -/
def CallSite.templateLiteral? (call : CallSite) (table : ShapeTable) : Option Literal :=
  (call.template? table).bind Argument.literal

/-- The diagnostics of a call stand at what they speak of. -/
theorem CallSite.anchored_of_mem_analyze {call : CallSite} {table : ShapeTable}
    {found : List Diagnostic} (h : call.analyze table = .ok found) (hd : d ∈ found) :
    ∃ template ∈ call.arguments, call.template? table = some template ∧
      Anchored call.arguments template d := by
  unfold analyze at h
  split at h
  · cases h
    cases hd
  · next shape hshape =>
    split at h
    · cases h
      cases hd
    · next binding hbinding =>
      split at h
      · cases h
        cases hd
      · next template htemplate =>
        have hmem := List.mem_of_getElem? htemplate
        refine ⟨template, hmem, ?_, (anchored_of_mem_analyzeParts h hd).mono ?_⟩
        · rw [CallSite.template?, hshape, Option.bind_some, hbinding, Option.bind_some, htemplate]
        · rw [List.cons_subset]
          refine ⟨hmem, fun value hvalue => ?_⟩
          obtain ⟨index, _, hindex⟩ := List.mem_filterMap.mp hvalue
          exact List.mem_of_getElem? hindex

end TemplateLint
