import TemplateLint.Proofs.Call.Ladder

/-!
# Repairing a call by a move

What the move of a misplaced exception does to the reading of its call, for shapes whose
overloads are a ladder. Main statements: on the shapes that are known without
configuration one move settles a call whose place for an exception is free; and the
criterion for any shape comes down on every ladder to a place for an exception where the
template stood.
-/

namespace TemplateLint

open Source

/-- No overload of a ladder has a receiver. -/
theorem head?_ne_receiver_of_mem_ladder {first count : Nat} {roles : List Role}
    (h : roles ∈ ladder first count) : roles.head? ≠ some .receiver := by
  obtain ⟨lead, _, _, rfl | rfl⟩ := mem_ladder_iff.mp h
  · cases lead <;> nofun
  · cases lead <;> nofun

/-- A call that passes a receiver has no candidates on a ladder, any other call has all of
its overloads. -/
theorem CallSite.candidates_of_isLadder {shape : Shape} {first count : Nat}
    (h : shape.IsLadder first count) (call : CallSite) :
    call.candidates shape = if call.explicitReceiver then [] else ladder first count := by
  have hreceiver : ∀ overload ∈ shape.overloads, overload.roles.head? ≠ some .receiver := by
    intro overload hmem
    have hladder : overload.roles ∈ ladder first count := by
      rw [← h]
      exact List.mem_map_of_mem hmem
    exact head?_ne_receiver_of_mem_ladder hladder
  have hroles : ∀ overload ∈ shape.overloads, call.rolesFor overload =
      if call.explicitReceiver then none else some overload.roles := by
    intro overload hmem
    rw [CallSite.rolesFor, if_neg (hreceiver overload hmem)]
  rw [CallSite.candidates, List.filterMap_congr hroles, ← h]
  cases call.explicitReceiver with
  | true => exact List.filterMap_eq_nil_iff.mpr fun _ _ => rfl
  | false => exact congrFun List.filterMap_eq_map shape.overloads

/-- What a reading on a ladder says about its template and about everything below it. -/
structure ReadAt (constant : Bool) (args : List Argument) (first count target : Nat) : Prop where
  /-- The template does not come before the first one of the ladder. -/
  first_le : first ≤ target
  /-- The template comes at most one place behind the last one of the ladder. -/
  le_stop : target ≤ first + count
  /-- The argument can be a template. -/
  isTemplate : reads constant args (plainRoles target) = true
  /-- No argument below it can be one. -/
  plain_below : ∀ lower, first ≤ lower → lower < target →
    reads constant args (plainRoles lower) = false
  /-- None can be one behind a place for an exception. -/
  slotted_below : ∀ lower, first ≤ lower → lower + 1 < target →
    reads constant args (slottedRoles lower) = false

/-- The first overload that reads the arguments. -/
theorem readAt_of_find? {constant : Bool} {args : List Argument} {first count : Nat}
    {roles : List Role} (h : (ladder first count).find? (reads constant args) = some roles) :
    ReadAt constant args first count (roles.idxOf .template) := by
  have hreads := List.find?_some h
  obtain ⟨lead, hle, hlt, hbelow, rfl | ⟨hplain, rfl⟩⟩ := find?_ladder_eq_some h
  · rw [idxOf_template_plainRoles]
    exact ⟨hle, by omega, hreads, fun lower hfirst hlower => (hbelow lower hfirst hlower).1,
      fun lower hfirst hlower => (hbelow lower hfirst (by omega)).2⟩
  · rw [idxOf_template_slottedRoles]
    refine ⟨by omega, by omega, ?_, fun lower hfirst hlower => ?_,
      fun lower hfirst hlower => (hbelow lower hfirst (by omega)).2⟩
    · rw [reads_slottedRoles, Bool.and_eq_true] at hreads
      rw [reads_plainRoles]
      exact hreads.2
    · rcases Nat.eq_or_lt_of_le (Nat.le_of_lt_succ hlower) with rfl | hless
      · exact hplain
      · exact (hbelow lower hfirst hless).1

namespace Misplaced

variable {constant : Bool} {args : List Argument} {source target first count : Nat}
  {exc : Argument}

/-- A ladder that does not read the arguments does not read the moved ones either. -/
theorem find?_eq_none (h : Misplaced args source target exc) (hfirst : first ≤ target)
    (hnone : (ladder first count).find? (reads constant args) = none) :
    (ladder first count).find? (reads constant (moveItem args source target)) = none := by
  rw [find?_ladder_eq_none_iff] at hnone ⊢
  intro lead hle hlt
  rcases Nat.lt_trichotomy lead target with hbelow | rfl | habove
  · obtain ⟨hplain, hslotted⟩ := hnone lead hle hlt
    rw [h.reads_plain_of_lt hbelow]
    exact ⟨hplain, h.reads_slotted_of_lt hbelow fun _ => hslotted⟩
  · rw [h.reads_slotted_target]
    exact ⟨h.reads_plain_target, (hnone lead hle hlt).1⟩
  · exact h.refused_of_lt habove fun lower hlower hle => hnone lower (by omega) (by omega)

/-- Below the target the moved arguments are refused if the template was read there. -/
theorem refused_below (h : Misplaced args source target exc)
    (hread : ReadAt constant args first count target) {lower : Nat} (hfirst : first ≤ lower)
    (hlower : lower < target) :
    reads constant (moveItem args source target) (plainRoles lower) = false ∧
      reads constant (moveItem args source target) (slottedRoles lower) = false := by
  rw [h.reads_plain_of_lt hlower]
  exact ⟨hread.plain_below lower hfirst hlower,
    h.reads_slotted_of_lt hlower (hread.slotted_below lower hfirst)⟩

/-- The moved arguments are read with the exception in the place for one, if the ladder
reaches so far. -/
theorem find?_eq_slotted (h : Misplaced args source target exc)
    (hread : ReadAt constant args first count target) (hlt : target < first + count) :
    (ladder first count).find? (reads constant (moveItem args source target)) =
      some (slottedRoles target) := by
  refine find?_ladder_slotted hread.first_le hlt
    (fun lower hfirst hlower => h.refused_below hread hfirst hlower) h.reads_plain_target ?_
  rw [h.reads_slotted_target]
  exact hread.isTemplate

end Misplaced

section Choice

variable {call : CallSite} {shape : Shape} {first count source : Nat} {roles : List Role}
  {exc : Argument}

/-- How a call is read on a ladder. -/
theorem choose?_of_isLadder (hladder : shape.IsLadder first count)
    (h : call.choose? shape = some roles) : call.explicitReceiver = false ∧
      ((ladder first count).find? (reads true call.arguments) = some roles ∨
        (ladder first count).find? (reads true call.arguments) = none ∧
          (ladder first count).find? (reads false call.arguments) = some roles) := by
  rw [CallSite.choose?_eq, CallSite.candidates_of_isLadder hladder] at h
  cases hreceiver : call.explicitReceiver with
  | true =>
    rw [hreceiver] at h
    cases h
  | false =>
    rw [hreceiver] at h
    exact ⟨rfl, Option.or_eq_some_iff.mp h⟩

/-- How a call that passes no receiver is chosen on a ladder. -/
theorem choose?_move (hladder : shape.IsLadder first count)
    (hreceiver : call.explicitReceiver = false) (target : Nat) :
    (call.move source target).choose? shape =
      ((ladder first count).find? (reads true (moveItem call.arguments source target))).or
        ((ladder first count).find? (reads false (moveItem call.arguments source target))) := by
  have hmoved : (call.move source target).explicitReceiver = false := hreceiver
  rw [CallSite.choose?_eq, CallSite.candidates_of_isLadder hladder, hmoved]
  rfl

/-- After the move the call is read with the exception in the place for one, if the ladder
reaches as far as the template. -/
theorem choose?_move_eq_slotted (hladder : shape.IsLadder first count)
    (h : call.choose? shape = some roles)
    (hmisplaced : Misplaced call.arguments source (roles.idxOf .template) exc)
    (hlt : roles.idxOf .template < first + count) :
    (call.move source (roles.idxOf .template)).choose? shape =
      some (slottedRoles (roles.idxOf .template)) := by
  obtain ⟨hreceiver, hfound | ⟨hnone, hfound⟩⟩ := choose?_of_isLadder hladder h
  · rw [choose?_move hladder hreceiver, hmisplaced.find?_eq_slotted (readAt_of_find? hfound) hlt,
      Option.some_or]
  · have hread := readAt_of_find? hfound
    rw [choose?_move hladder hreceiver, hmisplaced.find?_eq_none hread.first_le hnone,
      Option.none_or, hmisplaced.find?_eq_slotted hread hlt]

/-- What the choice says about everything below the template that is chosen on a ladder. -/
theorem readAt_of_choose? (hladder : shape.IsLadder first count)
    (h : call.choose? shape = some roles) :
    ReadAt (hasConstantTemplate roles call.arguments) call.arguments first count
      (roles.idxOf .template) := by
  have hfound := ((CallSite.choose?_eq_some_iff rfl).mp h).1
  rw [CallSite.candidates_of_isLadder hladder, (choose?_of_isLadder hladder h).1] at hfound
  exact readAt_of_find? hfound

/-- On a ladder roles recover a call only with the place for an exception at the target. -/
theorem lt_of_recovers (hladder : shape.IsLadder first count)
    (h : call.choose? shape = some roles) {next : List Role}
    (hmisplaced : Misplaced call.arguments source (roles.idxOf .template) exc)
    (hnext : call.Recovers shape (hasConstantTemplate roles call.arguments) source
      (roles.idxOf .template) next) : roles.idxOf .template < first + count := by
  have hread := readAt_of_choose? hladder h
  have hmem := hnext.mem_candidates
  rw [CallSite.candidates_of_isLadder hladder, (choose?_of_isLadder hladder h).1] at hmem
  obtain ⟨lead, hle, hlt, hroles⟩ := mem_ladder_iff.mp hmem
  have hplace : next.idxOf .template = lead ∨ next.idxOf .template = lead + 1 := by
    rcases hroles with rfl | rfl
    · exact .inl (idxOf_template_plainRoles lead)
    · exact .inr (idxOf_template_slottedRoles lead)
  obtain ⟨index, hmoved, hsame⟩ := hnext.template
  cases hmoved with
  | behind hindex hbehind _ => omega
  | before hbefore _ =>
    -- with the same argument in front of the template, that one would have been read
    rw [hmisplaced.getElem?_eraseIdx (Nat.le_of_lt hbefore)] at hsame
    have hbelow := hread.plain_below _ (by omega) hbefore
    rw [reads_plainRoles, hsame, ← reads_plainRoles, hread.isTemplate] at hbelow
    cases hbelow

end Choice

/-- A template without a place for an exception in front of it is one of the ladder. -/
theorem idxOf_template_lt_of_isLadder {call : CallSite} {shape : Shape} {first count : Nat}
    {roles : List Role} (hladder : shape.IsLadder first count)
    (h : call.choose? shape = some roles) (hfree : .exception ∉ roles) :
    roles.idxOf .template < first + count := by
  have hmem : roles ∈ ladder first count := by
    rcases (choose?_of_isLadder hladder h).2 with hfound | ⟨_, hfound⟩ <;>
      exact List.mem_of_find?_eq_some hfound
  obtain ⟨lead, _, hlt, rfl | rfl⟩ := mem_ladder_iff.mp hmem
  · rw [idxOf_template_plainRoles]
    exact hlt
  · exact absurd (exception_mem_slottedRoles lead) hfree

/-- The places for exceptions on a ladder. -/
theorem Shape.IsLadder.exists_exception_iff {shape : Shape} {first count : Nat}
    (h : shape.IsLadder first count) {index : Nat} :
    (∃ overload ∈ shape.overloads, overload.roles[index]? = some .exception) ↔
      first ≤ index ∧ index < first + count := by
  have hmap : (∃ overload ∈ shape.overloads, overload.roles[index]? = some .exception) ↔
      ∃ roles ∈ ladder first count, roles[index]? = some .exception := by
    rw [← h]
    simp only [List.mem_map, exists_exists_and_eq_and]
  rw [hmap]
  constructor
  · rintro ⟨roles, hmem, hexception⟩
    obtain ⟨lead, hle, hlt, rfl | rfl⟩ := mem_ladder_iff.mp hmem
    · exact absurd (List.mem_of_getElem? hexception) (exception_not_mem_plainRoles lead)
    · cases getElem?_slottedRoles_eq_exception_iff.mp hexception
      exact ⟨hle, hlt⟩
  · rintro ⟨hle, hlt⟩
    exact ⟨slottedRoles index, mem_ladder_iff.mpr ⟨index, hle, hlt, .inr rfl⟩,
      getElem?_slottedRoles_eq_exception_iff.mpr rfl⟩

/-- On a ladder a move keeps the template of a call exactly if the shape has an overload with the
place for an exception at the index to which the exception is moved. -/
theorem CallSite.keepsTemplate_iff_of_isLadder {call : CallSite} {table : ShapeTable}
    {shape : Shape} {first count : Nat} {roles : List Role} {source : Nat} {exc : Argument}
    (hshape : table.lookup call.method = some shape) (hladder : shape.IsLadder first count)
    (hroles : call.choose? shape = some roles)
    (h : Misplaced call.arguments source (roles.idxOf .template) exc) :
    (∃ template, call.template? table = some template ∧
      (call.move source (roles.idxOf .template)).template? table = some template) ↔
    ∃ overload ∈ shape.overloads,
      overload.roles[roles.idxOf .template]? = some .exception := by
  have hmoved : table.lookup (call.move source (roles.idxOf .template)).method = some shape :=
    hshape
  rw [hladder.exists_exception_iff]
  constructor
  · intro hkept
    obtain ⟨next, hnext⟩ := (CallSite.keepsTemplate_iff hshape hroles h rfl).mp hkept
    exact ⟨(readAt_of_choose? hladder hroles).first_le, lt_of_recovers hladder hroles h hnext⟩
  · rintro ⟨_, hlt⟩
    obtain ⟨template, htemplate⟩ := h.exists_target
    refine ⟨template, ?_, ?_⟩
    · rw [CallSite.template?_eq hshape, hroles, Option.bind_some, htemplate]
    · rw [CallSite.template?_eq hmoved, choose?_move_eq_slotted hladder hroles h hlt,
        Option.bind_some, idxOf_template_slottedRoles, CallSite.move, h.getElem?_moveItem_succ,
        htemplate]

/-- The arguments that a reading takes for values. -/
def CallSite.values (call : CallSite) (binding : Binding) : List Argument :=
  binding.valueIndices.filterMap (call.arguments[·]?)

/-- The values are what comes behind the template. -/
theorem CallSite.values_ofRoles (call : CallSite) (roles : List Role) :
    call.values (.ofRoles roles call.arguments) =
      call.arguments.drop (roles.idxOf .template + 1) := by
  have hall : (List.range call.arguments.length).map (call.arguments[·]?) =
      call.arguments.map some := by
    refine List.ext_getElem (by simp) fun index _ _ => ?_
    simp only [List.getElem_map, List.getElem_range]
    exact List.getElem?_eq_getElem _
  calc call.values (.ofRoles roles call.arguments)
      = (((List.range call.arguments.length).map (call.arguments[·]?)).drop
          (roles.idxOf .template + 1)).filterMap id := by
        rw [← List.map_drop, List.filterMap_map]
        rfl
    _ = call.arguments.drop (roles.idxOf .template + 1) := by
        rw [hall, ← List.map_drop, List.filterMap_map]
        exact List.filterMap_some

/-- Whether the analysis of a template and its values gives an answer depends on the
template alone. -/
theorem exists_analyzeParts_ok {template : Argument} {shape : Option Shape}
    {values : List Argument} {indices : List Int} {target : Int} {found : List Diagnostic}
    (h : analyzeParts template values shape indices target = .ok found)
    (others : List Argument) (places : List Int) (goal : Int) :
    ∃ answer, analyzeParts template others shape places goal = .ok answer := by
  unfold analyzeParts at h ⊢
  dsimp only at h ⊢
  split at h
  · obtain ⟨own, hown, _⟩ := Outcome.bind_eq_ok h
    unfold templateDiagnostics at hown ⊢
    split at hown
    · cases hown
    · exact ⟨_, rfl⟩
    · exact ⟨_, rfl⟩
  · exact ⟨_, rfl⟩

/-- What the analysis of a call with a template is. -/
theorem CallSite.analyze_eq {call : CallSite} {table : ShapeTable} {shape : Shape}
    {binding : Binding} {template : Argument} (hshape : table.lookup call.method = some shape)
    (hbinding : call.match? shape = some binding)
    (htemplate : call.arguments[binding.templateIndex]? = some template) :
    call.analyze table = analyzeParts template (call.values binding) (some shape)
      (binding.valueIndices.map Int.ofNat) binding.templateIndex := by
  rw [CallSite.analyze, hshape]
  dsimp only
  rw [hbinding]
  dsimp only
  rw [htemplate]
  rfl

/-- The values keep their order when one of them is moved before the template. -/
theorem CallSite.exists_values_split {call : CallSite} {source : Nat} {exc : Argument}
    {roles next : List Role}
    (hmisplaced : Misplaced call.arguments source (roles.idxOf .template) exc)
    (hnext : next.idxOf .template = roles.idxOf .template + 1) :
    ∃ before after, call.values (.ofRoles roles call.arguments) = before ++ exc :: after ∧
      (call.move source (roles.idxOf .template)).values
        (.ofRoles next (call.move source (roles.idxOf .template)).arguments) = before ++ after := by
  have hlt := hmisplaced.lt
  obtain ⟨hlength, _⟩ := List.getElem?_eq_some_iff.mp hmisplaced.getElem?_eq
  obtain ⟨⟨left, middle, item, right⟩, hargs, hitem, hsource, htarget⟩ :=
    exists_shift hlength (Nat.le_of_lt hlt)
  cases hmisplaced.getElem?_eq.symm.trans hitem
  rw [CallSite.values_ofRoles, CallSite.values_ofRoles, hnext, CallSite.move]
  dsimp only
  cases middle with
  | nil =>
    simp only [Shift.source, Shift.target, List.append_nil] at hsource htarget
    omega
  | cons template before =>
    rw [← hargs, ← hsource, ← htarget, moveItem_shift]
    refine ⟨before, right, ?_, ?_⟩
    · simp [Shift.before, Shift.target, List.drop_append]
    · simp [Shift.after, Shift.target, List.drop_append, Nat.add_assoc]

/-- The exception that is moved is reported no more, and no other one is. -/
theorem not_reported_after_move {call : CallSite} {table : ShapeTable} {shape : Shape}
    {source target : Nat} {exc : Argument} {next : Binding}
    (hmisplaced : Misplaced call.arguments source target exc)
    (honly : ∀ other, target < other → other ≠ source →
      ∀ arg, call.arguments[other]? = some arg → arg.isException = false)
    (hshape : table.lookup call.method = some shape)
    (hnext : (call.move source target).match? shape = some next)
    (hplace : next.templateIndex = target + 1) {found : List Diagnostic}
    (h : (call.move source target).analyze table = .ok found) {d : Diagnostic} (hd : d ∈ found) :
    d.rule ≠ .exceptionNotFirst := by
  intro hrule
  obtain ⟨own, binding, place, other, hown, hbinding, _, hat⟩ :=
    CallSite.misplaced_of_mem_analyze h hd hrule
  cases hshape.symm.trans hown
  cases hnext.symm.trans hbinding
  have hlt := hat.lt
  have hget := hat.getElem?_eq
  rw [CallSite.move, getElem?_moveItem hmisplaced.getElem?_eq (Nat.le_of_lt hmisplaced.lt),
    if_neg (by omega), if_neg (by omega)] at hget
  have hfalse : other.isException = false := by
    split at hget
    · exact honly (place - 1) (by omega) (by omega) other hget
    · exact honly place (by omega) (by omega) other hget
  rw [hat.isException] at hfalse
  cases hfalse

/-- On the shapes that are known without configuration one move settles a call whose place
for an exception is free and that has one exception among its values. The call is read
again, with the exception in the place for one, the same template behind it and the other
values in their order; no exception is reported any more, and there is an answer whenever
there was one before. -/
theorem one_move_settles_call {call : CallSite} {shape : Shape} {binding : Binding}
    {source : Nat} {exc : Argument}
    (hshape : ShapeTable.default.lookup call.method = some shape)
    (hmatch : call.match? shape = some binding) (hfree : binding.exceptionIndex = none)
    (hsource : source ∈ binding.valueIndices) (hexc : call.arguments[source]? = some exc)
    (hexception : exc.isException = true)
    (honly : ∀ other ∈ binding.valueIndices, other ≠ source →
      ∀ arg, call.arguments[other]? = some arg → arg.isException = false) :
    let moved := call.move source binding.templateIndex
    ∃ next template before after, moved.match? shape = some next ∧
      next.exceptionIndex = some binding.templateIndex ∧
      next.templateIndex = binding.templateIndex + 1 ∧
      call.arguments[binding.templateIndex]? = some template ∧
      moved.arguments[next.templateIndex]? = some template ∧
      call.values binding = before ++ exc :: after ∧ moved.values next = before ++ after ∧
      (∀ found, moved.analyze .default = .ok found →
        ∀ d ∈ found, d.rule ≠ .exceptionNotFirst) ∧
      ((∃ found, moved.analyze .default = .ok found) ↔
        ∃ found, call.analyze .default = .ok found) := by
  intro moved
  obtain ⟨first, count, hladder⟩ := isLadder_of_lookup_default hshape
  have hindices := @mem_valueIndices_iff _ _ _ hmatch
  have hothers : ∀ other, binding.templateIndex < other → other ≠ source →
      ∀ arg, call.arguments[other]? = some arg → arg.isException = false := by
    intro other hlt hne arg harg
    exact honly other (hindices.mpr ⟨hlt, (List.getElem?_eq_some_iff.mp harg).1⟩) hne arg harg
  have hmisplaced : Misplaced call.arguments source binding.templateIndex exc :=
    ⟨hexc, hexception, (hindices.mp hsource).1⟩
  obtain ⟨roles, hroles, rfl⟩ := Option.map_eq_some_iff.mp hmatch
  have hslot : Role.exception ∉ roles := by
    intro hmem
    rw [Binding.ofRoles, if_pos hmem] at hfree
    cases hfree
  have hchosen : moved.choose? shape = some (slottedRoles (roles.idxOf .template)) :=
    choose?_move_eq_slotted hladder hroles hmisplaced
      (idxOf_template_lt_of_isLadder hladder hroles hslot)
  have hnext : moved.match? shape =
      some (.ofRoles (slottedRoles (roles.idxOf .template)) moved.arguments) := by
    rw [CallSite.match?, hchosen]
    rfl
  have hplace := idxOf_template_slottedRoles (roles.idxOf .template)
  obtain ⟨template, htemplate⟩ := hmisplaced.exists_target
  have hmoved : moved.arguments[(slottedRoles (roles.idxOf .template)).idxOf .template]? =
      some template := by
    rw [hplace, ← htemplate]
    exact hmisplaced.getElem?_moveItem_succ
  obtain ⟨before, after, hbefore, hafter⟩ := CallSite.exists_values_split hmisplaced hplace
  refine ⟨_, template, before, after, hnext, ?_, hplace, htemplate, hmoved, hbefore, hafter,
    fun found hfound d hd => ?_, ?_⟩
  · rw [Binding.ofRoles, if_pos (exception_mem_slottedRoles _), idxOf_exception_slottedRoles]
    rfl
  · exact not_reported_after_move hmisplaced hothers hshape hnext hplace hfound hd
  · have hshape' : ShapeTable.default.lookup moved.method = some shape := hshape
    rw [CallSite.analyze_eq hshape hmatch htemplate, CallSite.analyze_eq hshape' hnext hmoved]
    constructor
    · rintro ⟨_, h⟩
      exact exists_analyzeParts_ok h _ _ _
    · rintro ⟨_, h⟩
      exact exists_analyzeParts_ok h _ _ _

/-- A call that is read strictly: its template is no constant, and its method has overloads
with a number in front. -/
theorem one_move_settles_call_strict :
    let message : Argument := { text := "message" }
    let exc : Argument := { text := "ex", isException := true }
    let number : Argument := { text := "n", typeName := some (Text.ofString "int") }
    let call : CallSite := { method := "LogError", arguments := [message, exc, number] }
    ∃ shape binding next, ShapeTable.default.lookup call.method = some shape ∧
      call.match? shape = some binding ∧ binding.exceptionIndex = none ∧
      binding.templateIndex = 0 ∧ (call.move 1 0).match? shape = some next ∧
      next.exceptionIndex = some 0 ∧ next.templateIndex = 1 ∧
      (call.move 1 0).arguments[next.templateIndex]? = some message ∧
      ∃ found, (call.move 1 0).analyze .default = .ok found ∧
        ∀ d ∈ found, d.rule ≠ .exceptionNotFirst := by
  intro message exc number call
  let shape : Shape :=
    { name := "LogError", overloads := [ShapeTable.logging [], ShapeTable.logging [.exception],
        ShapeTable.logging [.other], ShapeTable.logging [.other, .exception]] }
  let binding : Binding :=
    { roles := plainRoles 0, templateIndex := 0, valueIndices := [1, 2], exceptionIndex := none }
  have hshape : ShapeTable.default.lookup call.method = some shape := by decide
  have hmatch : call.match? shape = some binding := by decide
  have honly : ∀ other ∈ binding.valueIndices, other ≠ 1 →
      ∀ arg, call.arguments[other]? = some arg → arg.isException = false := by
    intro other hmem hne arg harg
    simp only [binding, List.mem_cons, List.not_mem_nil, or_false] at hmem
    rcases hmem with rfl | rfl
    · exact absurd rfl hne
    · cases harg
      rfl
  obtain ⟨next, template, _, _, hnext, hslot, hplace, htemplate, hmoved, _, _, hnone, hanswer⟩ :=
    one_move_settles_call hshape hmatch rfl (by decide) rfl rfl honly
  cases htemplate
  obtain ⟨found, hfound⟩ := hanswer.mpr ⟨[nonConstant message, misplacedException exc 1 0],
    by decide +kernel⟩
  exact ⟨shape, binding, next, hshape, hmatch, rfl, rfl, hnext, hslot, hplace, hmoved, found,
    hfound, hnone found hfound⟩

end TemplateLint
