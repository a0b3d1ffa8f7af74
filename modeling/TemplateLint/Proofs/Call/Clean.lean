import TemplateLint.Proofs.Call.Repair
import TemplateLint.Proofs.Method.Placement
import TemplateLint.Proofs.Template.Matching

/-!
# Calls without diagnostics

A call is in order if its method is not known, if it fits no overload, or if it passes no
exception as a value and its template is right: a template that is no constant may stand only
where the shape does not require one, and a constant one is well formed, matches the values and
names its properties well. Main statement: whenever the analysis gives an answer, it reports
nothing exactly for the calls that are in order.
-/

namespace TemplateLint

/-- The constant text for which an argument stands. -/
inductive Argument.Denotes (arg : Argument) : Text → Prop
  /-- The value of the argument is known. -/
  | constant {value : Text} (h : arg.constant = some value) : Denotes arg value
  /-- The argument is a name of the empty text. -/
  | empty (hconstant : arg.constant = none)
      (hname : arg.text.trim = Text.ofString "String.Empty" ∨
        arg.text.trim = Text.ofString "string.Empty" ∨
        arg.text.trim = Text.ofString "System.String.Empty") : Denotes arg []

/-- The value of an argument as a template is the text for which it stands. -/
theorem Argument.template?_eq_some_iff {arg : Argument} {value : Text} :
    arg.template? = some value ↔ arg.Denotes value := by
  unfold Argument.template?
  constructor
  · intro h
    split at h
    · next hconstant =>
      cases h
      exact .constant hconstant
    · next hconstant =>
      split at h
      · next hname =>
        cases h
        exact .empty hconstant (by simpa [emptyTexts] using hname)
      · cases h
  · intro h
    cases h with
    | constant hconstant => simp only [hconstant]
    | empty hconstant hname =>
      simp only [hconstant]
      exact if_pos (by simpa [emptyTexts] using hname)

/-- A template is right for a shape and a number of values. -/
inductive Shape.Accepts (shape : Shape) (template : Argument) (count : Nat) : Prop
  /-- The template is no constant, and none is required. -/
  | free (hvalue : ∀ value, ¬ template.Denotes value) (hshape : shape.requiresConstant = false)
  /-- The template is a constant that is well formed and suits the values. -/
  | constant {value : Text} {segments : List Template.Segment} (hvalue : template.Denotes value)
      (hparse : Template.parse value = .ok segments)
      (hsuits : Template.Suits (Template.properties segments) count)
      (hnames : Template.WellNamed (Template.properties segments))

/-- There is nothing to report about a call. -/
inductive CallSite.InOrder (call : CallSite) (table : ShapeTable) : Prop
  /-- The method has no shape. -/
  | unknown (hshape : table.lookup call.method = none)
  /-- The call fits no overload. -/
  | unmatched {shape : Shape} (hshape : table.lookup call.method = some shape)
      (hmatch : call.match? shape = none)
  /-- No value is an exception, and the template is right for the values. -/
  | right {shape : Shape} {binding : Binding} {template : Argument}
      (hshape : table.lookup call.method = some shape)
      (hmatch : call.match? shape = some binding)
      (htemplate : call.arguments[binding.templateIndex]? = some template)
      (hvalues : ∀ value ∈ call.values binding, value.isException = false)
      (haccepts : shape.Accepts template (call.values binding).length)

/-- A call is read through roles that have a template and that its arguments fill. -/
theorem CallSite.fits_of_choose? {call : CallSite} {shape : Shape} {roles : List Role}
    (h : call.choose? shape = some roles) :
    Role.template ∈ roles ∧ ∃ lenient, fits lenient roles call.arguments = true := by
  have hcandidate : roles ∈ call.candidates shape ∧
      ∃ lenient, fits lenient roles call.arguments = true := by
    rcases Option.or_eq_some_iff.mp h with hfound | ⟨_, hfound⟩
    · have hboth := List.find?_some hfound
      exact ⟨List.mem_of_find?_eq_some hfound, true, (Bool.and_eq_true_iff.mp hboth).1⟩
    · have hstrict := List.find?_some hfound
      exact ⟨List.mem_of_find?_eq_some hfound, false, hstrict⟩
  exact hcandidate.imp_left fun hmem => (wellPlaced_of_mem_candidates hmem).template_mem

/-- The template of a call that is matched is one of its arguments, and it is no exception. -/
theorem CallSite.exists_template_of_match? {call : CallSite} {shape : Shape} {binding : Binding}
    (h : call.match? shape = some binding) :
    ∃ template, call.arguments[binding.templateIndex]? = some template ∧
      template.isException = false := by
  obtain ⟨roles, hroles, rfl⟩ := Option.map_eq_some_iff.mp h
  obtain ⟨hmem, lenient, hfits⟩ := fits_of_choose? hroles
  obtain ⟨template, htemplate, hmay⟩ :=
    exists_accepted_of_fits hfits (List.getElem?_idxOf hmem) (by nofun)
  simp only [Role.accepts, Argument.mayBeTemplate, Bool.and_eq_true, Bool.not_eq_true'] at hmay
  exact ⟨template, htemplate, hmay.1⟩

/-- No exception is reported exactly when no value is one. -/
theorem exceptionDiagnostics_eq_nil_iff {values : List Argument} {indices : List Int}
    {target : Int} (hlength : indices.length = values.length) :
    exceptionDiagnostics values indices target = [] ↔
      ∀ value ∈ values, value.isException = false := by
  simp only [exceptionDiagnostics, List.map_eq_nil_iff, List.filter_eq_nil_iff, Bool.not_eq_true]
  constructor
  · intro h value hvalue
    obtain ⟨index, hindex, rfl⟩ := List.mem_iff_getElem.mp hvalue
    have hzip : index < (indices.zip values).length := by
      rw [List.length_zip]
      omega
    have hget := h _ (List.getElem_mem hzip)
    rwa [List.getElem_zip] at hget
  · rintro h ⟨index, value⟩ hzip
    exact h value (List.of_mem_zip hzip).2

/-- A constant template is not reported exactly when it is well formed, suits the values and
names its properties well. -/
theorem templateDiagnostics_eq_nil_iff {template : Argument} {value : Text}
    {values : List Argument} {found : List Diagnostic}
    (h : templateDiagnostics template value values = .ok found) :
    found = [] ↔ ∃ segments, Template.parse value = .ok segments ∧
      Template.Suits (Template.properties segments) values.length ∧
      Template.WellNamed (Template.properties segments) := by
  unfold templateDiagnostics at h
  split at h
  · cases h
  · next fault hparse =>
    cases h
    simp [hparse]
  · next segments hparse =>
    cases h
    simp [hparse, Template.bind_eq_nil_iff, Template.naming_eq_nil_iff]

/-- A template that stands for a constant is right exactly when the constant is. -/
theorem Shape.accepts_iff_of_denotes {shape : Shape} {template : Argument} {value : Text}
    {count : Nat} (hvalue : template.Denotes value) :
    shape.Accepts template count ↔ ∃ segments, Template.parse value = .ok segments ∧
      Template.Suits (Template.properties segments) count ∧
      Template.WellNamed (Template.properties segments) := by
  constructor
  · intro h
    cases h with
    | free hnone => exact absurd hvalue (hnone value)
    | @constant other segments hother hparse hsuits hnames =>
      have hsame : some other = some value :=
        (Argument.template?_eq_some_iff.mpr hother).symm.trans
          (Argument.template?_eq_some_iff.mpr hvalue)
      cases hsame
      exact ⟨segments, hparse, hsuits, hnames⟩
  · rintro ⟨segments, hparse, hsuits, hnames⟩
    exact .constant hvalue hparse hsuits hnames

/-- A template that stands for no constant is right exactly when none is required. -/
theorem Shape.accepts_iff_of_not_denotes {shape : Shape} {template : Argument} {count : Nat}
    (hnone : ∀ value, ¬ template.Denotes value) :
    shape.Accepts template count ↔ shape.requiresConstant = false := by
  constructor
  · intro h
    cases h with
    | free _ hshape => exact hshape
    | constant hvalue => exact absurd hvalue (hnone _)
  · exact .free hnone

/-- Nothing is reported about a template and its values exactly when no value is an exception
and the template is right for the values. -/
theorem analyzeParts_eq_nil_iff {template : Argument} {values : List Argument} {shape : Shape}
    {indices : List Int} {target : Int} {found : List Diagnostic}
    (hlength : indices.length = values.length)
    (h : analyzeParts template values (some shape) indices target = .ok found) :
    found = [] ↔ (∀ value ∈ values, value.isException = false) ∧
      shape.Accepts template values.length := by
  unfold analyzeParts at h
  dsimp only at h
  split at h
  · next value hvalue =>
    obtain ⟨own, hown, h⟩ := Outcome.bind_eq_ok h
    cases h
    rw [List.append_eq_nil_iff, exceptionDiagnostics_eq_nil_iff hlength,
      templateDiagnostics_eq_nil_iff hown,
      Shape.accepts_iff_of_denotes (Argument.template?_eq_some_iff.mp hvalue), and_comm]
  · next hvalue =>
    have hnone : ∀ value, ¬ template.Denotes value := by
      intro value hdenotes
      rw [Argument.template?_eq_some_iff.mpr hdenotes] at hvalue
      cases hvalue
    cases h
    rw [List.append_eq_nil_iff, exceptionDiagnostics_eq_nil_iff hlength,
      Shape.accepts_iff_of_not_denotes hnone, and_comm]
    cases hrequired : shape.requiresConstant <;> simp [hrequired]

/-- There are as many values as indices of values. -/
theorem CallSite.length_values {call : CallSite} {shape : Shape} {binding : Binding}
    (h : call.match? shape = some binding) :
    (binding.valueIndices.map Int.ofNat).length = (call.values binding).length := by
  obtain ⟨roles, _, rfl⟩ := Option.map_eq_some_iff.mp h
  rw [CallSite.values_ofRoles]
  simp [Binding.ofRoles]

/-- A call that is matched is in order exactly when no value is an exception and the template
is right for the values. -/
theorem CallSite.inOrder_iff_of_match? {call : CallSite} {table : ShapeTable} {shape : Shape}
    {binding : Binding} {template : Argument} (hshape : table.lookup call.method = some shape)
    (hmatch : call.match? shape = some binding)
    (htemplate : call.arguments[binding.templateIndex]? = some template) :
    call.InOrder table ↔ (∀ value ∈ call.values binding, value.isException = false) ∧
      shape.Accepts template (call.values binding).length := by
  constructor
  · intro h
    cases h with
    | unknown hnone => simp [hnone] at hshape
    | unmatched hother hnone =>
      cases hshape.symm.trans hother
      simp [hnone] at hmatch
    | right hother hbinding hget hvalues haccepts =>
      cases hshape.symm.trans hother
      cases hmatch.symm.trans hbinding
      cases htemplate.symm.trans hget
      exact ⟨hvalues, haccepts⟩
  · rintro ⟨hvalues, haccepts⟩
    exact .right hshape hmatch htemplate hvalues haccepts

/-- Whenever the analysis of a call gives an answer, it reports nothing exactly when the call
is in order. -/
theorem analyze_clean_iff_inOrder {call : CallSite} {table : ShapeTable}
    {found : List Diagnostic} (h : call.analyze table = .ok found) :
    found = [] ↔ call.InOrder table := by
  cases hshape : table.lookup call.method with
  | none =>
    have hnil : found = [] := by simpa [CallSite.analyze, hshape, eq_comm] using h
    exact iff_of_true hnil (.unknown hshape)
  | some shape =>
    cases hmatch : call.match? shape with
    | none =>
      have hnil : found = [] := by simpa [CallSite.analyze, hshape, hmatch, eq_comm] using h
      exact iff_of_true hnil (.unmatched hshape hmatch)
    | some binding =>
      obtain ⟨template, htemplate, _⟩ := CallSite.exists_template_of_match? hmatch
      rw [CallSite.analyze_eq hshape hmatch htemplate] at h
      rw [CallSite.inOrder_iff_of_match? hshape hmatch htemplate,
        analyzeParts_eq_nil_iff (CallSite.length_values hmatch) h]

/-- A call whose positional properties repeat the index of its only value is in order; with two
values the second one is reported. -/
theorem analyze_clean_iff_inOrder_repeated :
    let template : Argument :=
      { text := "t", constant := some (Text.ofString "\x7b0\x7d \x7b0\x7d") }
    let value : Argument := { text := "v" }
    let right : CallSite := { method := "Error", arguments := [template, value] }
    let wrong : CallSite := { method := "Error", arguments := [template, value, value] }
    right.analyze .default = .ok [] ∧ right.InOrder .default ∧
      wrong.analyze .default = .ok [Template.Mismatch.unusedPosition.at {}] ∧
      ¬ wrong.InOrder .default := by
  intro template value right wrong
  have hright : right.analyze .default = .ok [] := by decide +kernel
  have hwrong : wrong.analyze .default = .ok [Template.Mismatch.unusedPosition.at {}] := by
    decide +kernel
  refine ⟨hright, (analyze_clean_iff_inOrder hright).mp rfl, hwrong, fun h => ?_⟩
  cases (analyze_clean_iff_inOrder hwrong).mpr h

end TemplateLint
