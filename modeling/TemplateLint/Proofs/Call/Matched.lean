import TemplateLint.Proofs.Call.Clean

/-!
# What a match says

A call may be read through the roles of an overload if its arguments fill them one by one, the
last role taking any number of them if it is for all remaining values. Main statement: the
matching of a call never looks up a role or an argument that is not there, it finds a reading
exactly if there is one, with a constant template if there is one with a constant template, and
the reading says of every argument what it is for.
-/

namespace TemplateLint

/-- An argument can stand for a template. -/
structure Argument.SuitsTemplate (arg : Argument) : Prop where
  /-- It is no exception. -/
  isException : arg.isException = false
  /-- Its value is known, or its type is unknown or a type of texts. -/
  kind : arg.constant.isSome = true ∨ arg.typeName = none ∨
    arg.typeName = some (Text.ofString "string") ∨ arg.typeName = some (Text.ofString "String") ∨
    arg.typeName = some (Text.ofString "System.String")

/-- A role admits an argument. -/
inductive Role.Admits (lenient : Bool) (arg : Argument) : Role → Prop
  /-- An exception is one. -/
  | exception (h : arg.isException = true) : Admits lenient arg .exception
  /-- An argument of which nothing is known may be an exception, where that is allowed. -/
  | untyped (hlenient : lenient = true) (hconstant : arg.constant = none)
      (htype : arg.typeName = none) : Admits lenient arg .exception
  /-- A template suits its role. -/
  | template (h : arg.SuitsTemplate) : Admits lenient arg .template
  /-- The other roles admit every argument. -/
  | free {role : Role} (hexception : role ≠ .exception) (htemplate : role ≠ .template) :
    Admits lenient arg role

/-- Arguments fill a list of roles. -/
inductive Fills (lenient : Bool) : List Role → List Argument → Prop
  /-- Nothing is left to fill. -/
  | nil : Fills lenient [] []
  /-- The last role takes all remaining values. -/
  | values (args : List Argument) : Fills lenient [.values] args
  /-- The first argument fills the first role, and the others fill the others. -/
  | cons {role : Role} {roles : List Role} {arg : Argument} {args : List Argument}
      (hadmits : role.Admits lenient arg) (hrest : Fills lenient roles args) :
    Fills lenient (role :: roles) (arg :: args)

/-- An argument in the place of the template is a constant text. -/
def HoldsConstant (roles : List Role) (args : List Argument) : Prop :=
  ∃ (index : Nat) (template : Argument) (value : Text), roles[index]? = some .template ∧
    args[index]? = some template ∧ template.Denotes value

/-- The arguments of a call fill roles with a constant template; for this an argument of unknown
type may be an exception. -/
def CallSite.FillsConstant (call : CallSite) (roles : List Role) : Prop :=
  Fills true roles call.arguments ∧ HoldsConstant roles call.arguments

/-- The arguments of a call fill roles strictly. -/
def CallSite.FillsStrictly (call : CallSite) (roles : List Role) : Prop :=
  Fills false roles call.arguments

/-- The roles through which a call may be read: those of an overload, with the receiver if the
call passes one and without it otherwise. -/
inductive CallSite.Eligible (call : CallSite) (shape : Shape) : List Role → Prop
  /-- The call passes the receiver. -/
  | passed {overload : Overload} (hmem : overload ∈ shape.overloads)
      (hform : call.explicitReceiver = true) (hreceiver : overload.roles.head? = some .receiver) :
    Eligible call shape overload.roles
  /-- The call does not pass the receiver. -/
  | dropped {overload : Overload} {roles : List Role} (hmem : overload ∈ shape.overloads)
      (hform : call.explicitReceiver = false) (hroles : overload.roles = .receiver :: roles) :
    Eligible call shape roles
  /-- There is no receiver. -/
  | plain {overload : Overload} (hmem : overload ∈ shape.overloads)
      (hform : call.explicitReceiver = false) (hreceiver : overload.roles.head? ≠ some .receiver) :
    Eligible call shape overload.roles

/-- A binding reads a call through an overload of a shape. -/
structure CallSite.ReadAs (call : CallSite) (shape : Shape) (binding : Binding) : Prop where
  /-- The roles are those of an overload. -/
  eligible : call.Eligible shape binding.roles
  /-- The arguments fill them with a constant template, or strictly. -/
  fills : call.FillsConstant binding.roles ∨ call.FillsStrictly binding.roles
  /-- The template has its role. -/
  templateRole : binding.roles[binding.templateIndex]? = some .template
  /-- The template is an argument that suits its role. -/
  template : ∃ template, call.arguments[binding.templateIndex]? = some template ∧
    template.SuitsTemplate
  /-- The exception has its role and comes before the template. -/
  exception : ∀ index, binding.exceptionIndex = some index →
    binding.roles[index]? = some .exception ∧ index < binding.templateIndex
  /-- No exception is left out. -/
  noException : binding.exceptionIndex = none → .exception ∉ binding.roles
  /-- The values are taken in order, each once. -/
  increasing : binding.valueIndices.Pairwise (· < ·)
  /-- The values are the arguments behind the template. -/
  mem_values_iff : ∀ index, index ∈ binding.valueIndices ↔
    binding.templateIndex < index ∧ index < call.arguments.length
  /-- If no role takes the remaining values, every role has one argument. -/
  length_eq : .values ∉ binding.roles → call.arguments.length = binding.roles.length

/-- The template of a binding is a constant text. -/
def CallSite.BindsConstant (call : CallSite) (binding : Binding) : Prop :=
  ∃ template value, call.arguments[binding.templateIndex]? = some template ∧
    template.Denotes value

section Filling

variable {lenient : Bool} {role : Role} {roles : List Role} {arg : Argument}
  {args : List Argument}

/-- An argument may be a template exactly if it suits the role. -/
theorem Argument.mayBeTemplate_iff : arg.mayBeTemplate = true ↔ arg.SuitsTemplate := by
  have hkind : arg.mayBeTemplate = true ↔ arg.isException = false ∧
      (arg.constant.isSome = true ∨ arg.typeName = none ∨
        arg.typeName = some (Text.ofString "string") ∨
        arg.typeName = some (Text.ofString "String") ∨
        arg.typeName = some (Text.ofString "System.String")) := by
    unfold mayBeTemplate
    cases arg.typeName <;> simp [textTypes]
  exact hkind.trans ⟨fun h => ⟨h.1, h.2⟩, fun h => ⟨h.isException, h.kind⟩⟩

/-- The test of an argument for a role says whether the role admits it. -/
theorem Role.accepts_iff_admits : role.accepts lenient arg = true ↔ role.Admits lenient arg := by
  constructor
  · intro h
    cases role with
    | exception =>
      simp only [Role.accepts, Argument.isUntyped, Bool.or_eq_true, Bool.and_eq_true,
        Option.isNone_iff_eq_none] at h
      rcases h with hexception | ⟨hlenient, ⟨htype, hconstant⟩, _⟩
      · exact .exception hexception
      · exact .untyped hlenient hconstant htype
    | template => exact .template (Argument.mayBeTemplate_iff.mp h)
    | receiver => exact .free (by decide) (by decide)
    | other => exact .free (by decide) (by decide)
    | value => exact .free (by decide) (by decide)
    | values => exact .free (by decide) (by decide)
  · intro h
    cases h with
    | exception h => simp [Role.accepts, h]
    | untyped hlenient hconstant htype =>
      cases hexception : arg.isException <;>
        simp [Role.accepts, Argument.isUntyped, hlenient, hconstant, htype, hexception]
    | template h => exact Argument.mayBeTemplate_iff.mpr h
    | free hexception htemplate =>
      cases role with
      | exception => exact absurd rfl hexception
      | template => exact absurd rfl htemplate
      | receiver => rfl
      | other => rfl
      | value => rfl
      | values => rfl

/-- No arguments fill no roles. -/
theorem fills_nil_iff : Fills lenient [] args ↔ args = [] := by
  constructor
  · intro h
    cases h
    rfl
  · rintro rfl
    exact .nil

/-- The last role is filled by one argument that it admits, or takes all remaining values. -/
theorem fits_singleton : fits lenient [role] args = true ↔
    role = .values ∨ ∃ arg, args = [arg] ∧ role.accepts lenient arg = true := by
  by_cases hvalues : role = .values
  · rw [hvalues]
    exact iff_of_true (fits_values args) (.inl rfl)
  · simp only [fits, List.getLast?_singleton, Option.some.injEq, hvalues, decide_false,
      Bool.false_eq_true, if_false, false_or]
    cases args with
    | nil => simp
    | cons arg args => cases args <;> simp

/-- The test of arguments for a list of roles says whether they fill it. -/
theorem fits_iff_fills : fits lenient roles args = true ↔ Fills lenient roles args := by
  induction roles generalizing args with
  | nil =>
    rw [fills_nil_iff]
    simp [fits]
  | cons role roles ih =>
    constructor
    · intro h
      cases roles with
      | nil =>
        rcases fits_singleton.mp h with rfl | ⟨arg, rfl, haccepts⟩
        · exact .values args
        · exact .cons (Role.accepts_iff_admits.mp haccepts) .nil
      | cons next roles =>
        cases args with
        | nil => simp [fits_nil (List.cons_ne_nil _ _)] at h
        | cons arg args =>
          rw [fits_cons (List.cons_ne_nil _ _), Bool.and_eq_true] at h
          exact .cons (Role.accepts_iff_admits.mp h.1) (ih.mp h.2)
    · intro h
      cases h with
      | values => exact fits_values args
      | @cons _ _ arg args hadmits hrest =>
        have haccepts := Role.accepts_iff_admits.mpr hadmits
        cases roles with
        | nil =>
          rw [fills_nil_iff] at hrest
          exact fits_singleton.mpr (.inr ⟨arg, by rw [hrest], haccepts⟩)
        | cons next roles =>
          rw [fits_cons (List.cons_ne_nil _ _), haccepts, Bool.true_and]
          exact ih.mpr hrest

/-- A strict filling is also one where an argument of unknown type may be an exception. -/
theorem Fills.of_strict (h : Fills false roles args) : Fills true roles args :=
  fits_iff_fills.mp (fits_of_strict (fits_iff_fills.mpr h))

/-- Without a role for the remaining values there are as many arguments as roles. -/
theorem Fills.length_eq (h : Fills lenient roles args) (hvalues : .values ∉ roles) :
    args.length = roles.length := by
  induction h with
  | nil => rfl
  | values args => simp at hvalues
  | cons _ _ ih =>
    rw [List.length_cons, List.length_cons, ih fun hmem => hvalues (List.mem_cons_of_mem _ hmem)]

/-- A role other than that of the remaining values has an argument that it admits. -/
theorem Fills.exists_admitted (h : Fills lenient roles args) {index : Nat}
    (hrole : roles[index]? = some role) (hvalues : role ≠ .values) :
    ∃ arg, args[index]? = some arg ∧ role.Admits lenient arg := by
  obtain ⟨arg, harg, haccepts⟩ := exists_accepted_of_fits (fits_iff_fills.mpr h) hrole hvalues
  exact ⟨arg, harg, Role.accepts_iff_admits.mp haccepts⟩

end Filling

namespace CallSite

variable {call : CallSite} {shape : Shape} {roles : List Role} {binding : Binding}

/-- The candidates are the roles through which the call may be read. -/
theorem mem_candidates_iff : roles ∈ call.candidates shape ↔ call.Eligible shape roles := by
  rw [candidates, List.mem_filterMap]
  constructor
  · rintro ⟨overload, hmem, hroles⟩
    unfold rolesFor at hroles
    split at hroles
    · next hreceiver =>
      cases hform : call.explicitReceiver with
      | true =>
        simp only [hform, if_true, Option.some.injEq] at hroles
        exact hroles ▸ .passed hmem hform hreceiver
      | false =>
        simp only [hform, Bool.false_eq_true, if_false, Option.some.injEq] at hroles
        exact .dropped hmem hform (hroles ▸ List.eq_cons_of_mem_head? hreceiver)
    · next hreceiver =>
      split at hroles
      · cases hroles
      · next hform =>
        cases hroles
        exact .plain hmem (Bool.eq_false_iff.mpr hform) hreceiver
  · intro h
    cases h with
    | passed hmem hform hreceiver =>
      exact ⟨_, hmem, by rw [rolesFor, if_pos hreceiver, if_pos hform]⟩
    | dropped hmem hform hroles => exact ⟨_, hmem, by simp [rolesFor, hroles, hform]⟩
    | plain hmem hform hreceiver => exact ⟨_, hmem, by simp [rolesFor, hreceiver, hform]⟩

/-- The roles through which a call may be read are well placed. -/
theorem Eligible.wellPlaced (h : call.Eligible shape roles) : WellPlaced roles :=
  wellPlaced_of_mem_candidates (mem_candidates_iff.mpr h)

/-- The test for a constant template says whether the place of the template holds one. -/
theorem Eligible.hasConstantTemplate_iff (h : call.Eligible shape roles)
    {args : List Argument} : hasConstantTemplate roles args = true ↔ HoldsConstant roles args := by
  simp only [hasConstantTemplate, templateArgument?, Option.isSome_iff_exists,
    Option.bind_eq_some_iff, Argument.template?_eq_some_iff]
  constructor
  · rintro ⟨value, template, htemplate, hvalue⟩
    exact ⟨_, template, value, h.wellPlaced.getElem?_idxOf, htemplate, hvalue⟩
  · rintro ⟨index, template, value, hrole, htemplate, hvalue⟩
    rw [h.wellPlaced.eq_idxOf hrole] at htemplate
    exact ⟨value, template, htemplate, hvalue⟩

/-- The tests of the matching say which of the roles the arguments fill. -/
theorem Eligible.reads_iff (h : call.Eligible shape roles) :
    (reads true call.arguments roles = true ↔ call.FillsConstant roles) ∧
      (reads false call.arguments roles = true ↔ call.FillsStrictly roles) := by
  simp only [reads, Bool.and_eq_true, Bool.not_true, Bool.false_or, Bool.not_false, Bool.true_or,
    and_true, fits_iff_fills, h.hasConstantTemplate_iff]
  exact ⟨Iff.rfl, Iff.rfl⟩

/-- A search among the candidates finds nothing exactly if none of them is read. -/
theorem find?_candidates_eq_none_iff {constant : Bool} :
    (call.candidates shape).find? (reads constant call.arguments) = none ↔
      ∀ roles, call.Eligible shape roles → ¬ reads constant call.arguments roles = true := by
  simp only [List.find?_eq_none, mem_candidates_iff]

/-- The call is not read exactly if its arguments fill the roles of no overload. -/
theorem choose?_eq_none_iff : call.choose? shape = none ↔
    ∀ roles, call.Eligible shape roles →
      ¬ call.FillsConstant roles ∧ ¬ call.FillsStrictly roles := by
  rw [choose?_eq, Option.or_eq_none_iff, find?_candidates_eq_none_iff, find?_candidates_eq_none_iff,
    ← forall₂_and]
  refine forall₂_congr fun roles h => ?_
  rw [h.reads_iff.1, h.reads_iff.2]

/-- The roles through which the call is read are filled with a constant template, or strictly if
no roles can be filled with one. -/
theorem of_choose?_eq_some (h : call.choose? shape = some roles) :
    call.Eligible shape roles ∧ (call.FillsConstant roles ∨ call.FillsStrictly roles ∧
      ∀ other, call.Eligible shape other → ¬ call.FillsConstant other) := by
  rw [choose?_eq] at h
  rcases Option.or_eq_some_iff.mp h with hfound | ⟨hnone, hfound⟩
  · have heligible := mem_candidates_iff.mp (List.mem_of_find?_eq_some hfound)
    exact ⟨heligible, .inl (heligible.reads_iff.1.mp (List.find?_some hfound))⟩
  · have heligible := mem_candidates_iff.mp (List.mem_of_find?_eq_some hfound)
    refine ⟨heligible, .inr ⟨heligible.reads_iff.2.mp (List.find?_some hfound), ?_⟩⟩
    intro other hother
    rw [← hother.reads_iff.1]
    exact find?_candidates_eq_none_iff.mp hnone other hother

/-- What is found reads the call through an overload. -/
theorem readAs_of_match? (h : call.match? shape = some binding) : call.ReadAs shape binding := by
  have hvalues := fun index => @mem_valueIndices_iff call shape binding h index
  obtain ⟨roles, hroles, rfl⟩ := Option.map_eq_some_iff.mp h
  obtain ⟨heligible, hfills⟩ := of_choose?_eq_some hroles
  have hfilled : call.FillsConstant roles ∨ call.FillsStrictly roles := hfills.imp_right And.left
  obtain ⟨lenient, hany⟩ : ∃ lenient, Fills lenient roles call.arguments :=
    hfilled.elim (fun hconstant => ⟨true, hconstant.1⟩) fun hstrict => ⟨false, hstrict⟩
  have htemplateRole := heligible.wellPlaced.getElem?_idxOf
  refine ⟨heligible, hfilled, htemplateRole, ?_, fun index hindex => ?_, fun hnone => ?_, ?_,
    hvalues, hany.length_eq⟩
  · obtain ⟨template, htemplate, hadmits⟩ := hany.exists_admitted htemplateRole (by nofun)
    cases hadmits with
    | template hsuits => exact ⟨template, htemplate, hsuits⟩
    | free _ hne => exact absurd rfl hne
  · rw [Binding.ofRoles] at hindex
    split at hindex
    · next hmem =>
      cases hindex
      have hexception := List.getElem?_idxOf hmem
      exact ⟨hexception, heligible.wellPlaced.lt_template_of_exception hexception⟩
    · cases hindex
  · rw [Binding.ofRoles] at hnone
    split at hnone
    · cases hnone
    · next hmem => exact hmem
  · exact List.pairwise_lt_range.sublist (List.drop_sublist _ _)

/-- The template of a reading is a constant exactly if the arguments fill the roles with a constant
template. -/
theorem ReadAs.bindsConstant_iff (h : call.ReadAs shape binding) :
    call.BindsConstant binding ↔ call.FillsConstant binding.roles := by
  constructor
  · rintro ⟨template, value, htemplate, hvalue⟩
    refine ⟨?_, binding.templateIndex, template, value, h.templateRole, htemplate, hvalue⟩
    exact h.fills.elim And.left Fills.of_strict
  · rintro ⟨_, index, template, value, hrole, htemplate, hvalue⟩
    have hplaced := h.eligible.wellPlaced
    have hindex : index = binding.templateIndex :=
      (hplaced.eq_idxOf hrole).trans (hplaced.eq_idxOf h.templateRole).symm
    exact ⟨template, value, hindex ▸ htemplate, hvalue⟩

end CallSite

/-- A look-up that finds nothing. -/
inductive Missing
  /-- The role does not occur. -/
  | role (role : Role)
  /-- There is no such argument. -/
  | argument (index : Nat)

/-- Position of a role. -/
def findRole (roles : List Role) (role : Role) : Except Missing Nat :=
  if role ∈ roles then .ok (roles.idxOf role) else .error (.role role)

/-- The argument at an index. -/
def getArgument (args : List Argument) (index : Nat) : Except Missing Argument :=
  match args[index]? with
  | some arg => .ok arg
  | none => .error (.argument index)

/-- The first item that passes a test with look-ups. -/
def findChecked {α : Type} (test : α → Except Missing Bool) : List α → Except Missing (Option α)
  | [] => return none
  | item :: rest => do if ← test item then return some item else findChecked test rest

/-- Whether arguments fill roles with a constant template, which is looked up if they fit. -/
def constantChecked (args : List Argument) (roles : List Role) : Except Missing Bool := do
  if fits true roles args then
    let template ← getArgument args (← findRole roles .template)
    return template.template?.isSome
  else return false

/-- The reading of a call through roles, whose positions are looked up. -/
def Binding.checked (roles : List Role) (args : List Argument) : Except Missing Binding := do
  let templateIndex ← findRole roles .template
  let exceptionIndex ← if .exception ∈ roles then some <$> findRole roles .exception else pure none
  return { roles, templateIndex, exceptionIndex,
           valueIndices := List.range' (templateIndex + 1) (args.length - (templateIndex + 1)) }

/-- The reading of a call through the overloads of a shape, with a failure wherever a look-up
finds nothing. -/
def CallSite.matchChecked (call : CallSite) (shape : Shape) : Except Missing (Option Binding) := do
  let candidates := call.candidates shape
  let constant ← findChecked (constantChecked call.arguments) candidates
  match constant.or (candidates.find? fun roles => fits false roles call.arguments) with
  | some roles => some <$> Binding.checked roles call.arguments
  | none => return none

section Lookup

variable {roles : List Role} {args : List Argument}

/-- A role that occurs is found. -/
theorem findRole_eq_ok {role : Role} (h : role ∈ roles) :
    findRole roles role = .ok (roles.idxOf role) :=
  if_pos h

/-- A search whose look-ups succeed finds what the plain search finds. -/
theorem findChecked_eq_ok {α : Type} {test : α → Except Missing Bool} {p : α → Bool}
    {list : List α} (h : ∀ item ∈ list, test item = .ok (p item)) :
    findChecked test list = .ok (list.find? p) := by
  induction list with
  | nil => rfl
  | cons item rest ih =>
    rw [List.forall_mem_cons] at h
    rw [findChecked, h.1, Outcome.ok_bind, List.find?_cons]
    cases p item with
    | true => rfl
    | false => exact ih h.2

/-- Roles with a template are read without a failure. -/
theorem Binding.checked_eq_ok (h : .template ∈ roles) :
    Binding.checked roles args = .ok (.ofRoles roles args) := by
  have hvalues : List.range' (roles.idxOf .template + 1)
      (args.length - (roles.idxOf .template + 1)) =
        (List.range args.length).drop (roles.idxOf .template + 1) := by
    rw [List.range_eq_range', List.drop_range']
    simp
  rw [Binding.checked, findRole_eq_ok h, Outcome.ok_bind, hvalues, Binding.ofRoles]
  split
  · next hexception =>
    rw [findRole_eq_ok hexception]
    rfl
  · rfl

/-- The look-up of the template in roles that the arguments fit succeeds. -/
theorem constantChecked_eq_ok (h : .template ∈ roles) :
    constantChecked args roles = .ok (reads true args roles) := by
  unfold constantChecked reads
  cases hfits : fits true roles args with
  | false => rfl
  | true =>
    obtain ⟨template, htemplate, _⟩ :=
      exists_accepted_of_fits hfits (List.getElem?_idxOf h) (by nofun)
    simp only [if_true, findRole_eq_ok h, Outcome.ok_bind, getArgument, htemplate,
      hasConstantTemplate, templateArgument?]
    rfl

/-- The matching never looks up a role or an argument that is not there. -/
theorem CallSite.matchChecked_eq_ok (call : CallSite) (shape : Shape) :
    call.matchChecked shape = .ok (call.match? shape) := by
  have hconstant : findChecked (constantChecked call.arguments) (call.candidates shape) =
      .ok ((call.candidates shape).find? (reads true call.arguments)) := by
    refine findChecked_eq_ok fun roles hmem => ?_
    exact constantChecked_eq_ok (wellPlaced_of_mem_candidates hmem).template_mem
  have hchoice : ((call.candidates shape).find? (reads true call.arguments)).or
      ((call.candidates shape).find? fun roles => fits false roles call.arguments) =
        call.choose? shape := rfl
  simp only [matchChecked, hconstant, Outcome.ok_bind, hchoice, match?]
  cases hchosen : call.choose? shape with
  | none => rfl
  | some roles =>
    have htemplate := (of_choose?_eq_some hchosen).1.wellPlaced.template_mem
    simp only [Binding.checked_eq_ok htemplate]
    rfl

/-- The matching of a call is safe, sound and complete: it never looks up a role or an argument
that is not there; what it finds reads the call through an overload; if the arguments fill some
roles with a constant template, it finds a reading with a constant template; and it finds nothing
exactly if the arguments fill no roles, neither in this way nor strictly. -/
theorem match_finds_readings (call : CallSite) (shape : Shape) :
    call.matchChecked shape = .ok (call.match? shape) ∧
      (∀ binding, call.match? shape = some binding → call.ReadAs shape binding) ∧
      ((∃ roles, call.Eligible shape roles ∧ call.FillsConstant roles) →
        ∃ binding, call.match? shape = some binding ∧ call.BindsConstant binding) ∧
      (call.match? shape = none ↔ ∀ roles, call.Eligible shape roles →
        ¬ call.FillsConstant roles ∧ ¬ call.FillsStrictly roles) := by
  refine ⟨call.matchChecked_eq_ok shape, fun _ => CallSite.readAs_of_match?, ?_, ?_⟩
  · rintro ⟨roles, heligible, hfills⟩
    cases hchosen : call.choose? shape with
    | none => exact absurd hfills (CallSite.choose?_eq_none_iff.mp hchosen roles heligible).1
    | some chosen =>
      have hmatch : call.match? shape = some (.ofRoles chosen call.arguments) :=
        congrArg _ hchosen
      refine ⟨_, hmatch, (CallSite.readAs_of_match? hmatch).bindsConstant_iff.mpr ?_⟩
      obtain ⟨_, hconstant | ⟨_, hother⟩⟩ := CallSite.of_choose?_eq_some hchosen
      · exact hconstant
      · exact absurd hfills (hother roles heligible)
  · rw [CallSite.match?, Option.map_eq_none_iff, CallSite.choose?_eq_none_iff]

/-- An argument of unknown type before a constant text is read as an exception. Without the
constant text the call is read strictly, and the argument becomes the template. -/
theorem match_finds_readings_untyped :
    let unknown : Argument := { text := "e" }
    let template : Argument := { text := "t", constant := some (Text.ofString "x") }
    let shape : Shape :=
      { name := "Error", overloads := [ShapeTable.logging [], ShapeTable.logging [.exception]] }
    let call : CallSite := { method := "Error", arguments := [unknown, template, unknown] }
    let plain : CallSite := { method := "Error", arguments := [unknown, unknown] }
    let binding : Binding := ⟨[.exception, .template, .values], 1, [2], some 0⟩
    call.match? shape = some binding ∧ call.ReadAs shape binding ∧
      (∃ found, call.match? shape = some found ∧ call.BindsConstant found) ∧
      plain.match? shape = some ⟨[.template, .values], 0, [1], none⟩ ∧
      plain.ReadAs shape ⟨[.template, .values], 0, [1], none⟩ := by
  intro unknown template shape call plain binding
  have hmatch : call.match? shape = some binding := by decide
  have hplain : plain.match? shape = some ⟨[.template, .values], 0, [1], none⟩ := by decide
  have hread := (match_finds_readings call shape).2.1 binding hmatch
  have hconstant : call.FillsConstant binding.roles := by
    refine ⟨.cons (.untyped rfl rfl rfl) (.cons (.template ⟨rfl, .inl rfl⟩) (.values _)), ?_⟩
    exact ⟨1, template, Text.ofString "x", rfl, rfl, .constant rfl⟩
  exact ⟨hmatch, hread, (match_finds_readings call shape).2.2.1 ⟨_, hread.eligible, hconstant⟩,
    hplain, (match_finds_readings plain shape).2.1 _ hplain⟩

end Lookup

end TemplateLint
