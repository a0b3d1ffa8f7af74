import TemplateLint.Proofs.Call.Anchor
import TemplateLint.Proofs.Source.Move

/-!
# Misplaced exceptions

A diagnostic about a misplaced exception carries a move: the exception stands among the
values, so behind the template, and is to take the place of the template. Main statement:
the move of every such diagnostic is one to the left, to the index of the template, of an
argument that is an exception.
-/

namespace TemplateLint

/-- An exception stands behind the place to which it is to be moved. -/
structure Misplaced (args : List Argument) (source target : Nat) (exc : Argument) : Prop where
  /-- The exception stands at the source. -/
  getElem?_eq : args[source]? = some exc
  /-- It is an exception. -/
  isException : exc.isException = true
  /-- The target comes before the source. -/
  lt : target < source

/-- The move puts what stood at the target right behind it. -/
theorem Misplaced.getElem?_moveItem_succ {args : List Argument} {source target : Nat}
    {exc : Argument} (h : Misplaced args source target exc) :
    (Source.moveItem args source target)[target + 1]? = args[target]? := by
  have hlt := h.lt
  rw [Source.getElem?_moveItem h.getElem?_eq (Nat.le_of_lt hlt), if_neg (by omega),
    if_neg (by omega), if_pos (by omega), Nat.add_sub_cancel]

/-- The call with one argument moved. -/
def CallSite.move (call : CallSite) (source target : Nat) : CallSite :=
  { call with arguments := Source.moveItem call.arguments source target }

/-- What holds of the diagnostics of faults, of properties and of values without a property holds of
every diagnostic of a constant template. -/
theorem of_mem_templateDiagnostics (p : Diagnostic → Prop) {template : Argument} {value : Text}
    {values : List Argument} {found : List Diagnostic} {d : Diagnostic}
    (h : templateDiagnostics template value values = .ok found) (hd : d ∈ found)
    (hfault : ∀ message span, p { rule := .parseError, message, span })
    (hproperty : ∀ hole d, Template.IsAbout hole d → p d)
    (hvalue : ∀ (mismatch : Template.Mismatch) span, p (mismatch.at span)) : p d := by
  unfold templateDiagnostics at h
  split at h
  · cases h
  · cases h
    cases List.mem_singleton.mp hd
    exact hfault _ _
  · cases h
    rcases List.mem_append.mp hd with hbind | hnaming
    · rcases Template.anchored_of_mem_bind hbind with
        ⟨hole, _, habout, _⟩ | ⟨span, _, mismatch, _, rfl⟩
      · exact hproperty hole d habout
      · exact hvalue mismatch span
    · obtain ⟨hole, _, habout, _⟩ := Template.atProperty_of_mem_naming hnaming
      exact hproperty hole d habout

/-- A diagnostic of a constant template is neither about an exception nor about a template that
is no constant. -/
theorem rule_ne_of_mem_templateDiagnostics {template : Argument} {value : Text}
    {values : List Argument} {found : List Diagnostic} {d : Diagnostic}
    (h : templateDiagnostics template value values = .ok found) (hd : d ∈ found) :
    d.rule ≠ .exceptionNotFirst ∧ d.rule ≠ .nonConstantTemplate := by
  refine of_mem_templateDiagnostics
    (fun d => d.rule ≠ .exceptionNotFirst ∧ d.rule ≠ .nonConstantTemplate) h hd
    (fun _ _ => ⟨nofun, nofun⟩) (fun hole d habout => ?_) fun _ _ => ⟨nofun, nofun⟩
  cases habout <;> exact ⟨nofun, nofun⟩

/-- The diagnostics of a template, without those of the exceptions among its values. -/
def ownDiagnostics (template : Argument) (values : List Argument) (shape : Option Shape) :
    Except Text.Oversized (List Diagnostic) :=
  match template.template? with
  | some value => templateDiagnostics template value values
  | none => .ok (if shape.all Shape.requiresConstant then [nonConstant template] else [])

/-- The diagnostics of the template come first, and only the others depend on places in the
call. -/
theorem analyzeParts_eq (template : Argument) (values : List Argument) (shape : Option Shape)
    (indices : List Int) (target : Int) :
    analyzeParts template values shape indices target =
      (ownDiagnostics template values shape).map
        (· ++ exceptionDiagnostics values indices target) := by
  unfold analyzeParts ownDiagnostics
  cases template.template? with
  | none => rfl
  | some value => cases templateDiagnostics template value values <;> rfl

/-- The diagnostics of the exceptions among the values come last, and no other one is about an
exception. -/
theorem exists_append_of_analyzeParts {template : Argument} {values : List Argument}
    {shape : Option Shape} {indices : List Int} {target : Int} {found : List Diagnostic}
    (h : analyzeParts template values shape indices target = .ok found) :
    ∃ own, found = own ++ exceptionDiagnostics values indices target ∧
      ∀ d ∈ own, d.rule ≠ .exceptionNotFirst := by
  rw [analyzeParts_eq] at h
  obtain ⟨own, hown, rfl⟩ := Outcome.map_eq_ok h
  refine ⟨own, rfl, fun d hd => ?_⟩
  unfold ownDiagnostics at hown
  split at hown
  · exact (rule_ne_of_mem_templateDiagnostics hown hd).1
  · cases hown
    split at hd
    · cases List.mem_singleton.mp hd
      nofun
    · cases hd

/-- A diagnostic about an exception names one of the values. -/
theorem mem_exceptionDiagnostics_of_rule {template : Argument} {values : List Argument}
    {shape : Option Shape} {indices : List Int} {target : Int} {found : List Diagnostic}
    {d : Diagnostic} (h : analyzeParts template values shape indices target = .ok found)
    (hd : d ∈ found) (hrule : d.rule = .exceptionNotFirst) :
    d ∈ exceptionDiagnostics values indices target := by
  obtain ⟨own, rfl, hown⟩ := exists_append_of_analyzeParts h
  rcases List.mem_append.mp hd with hfront | hexception
  · exact absurd hrule (hown d hfront)
  · exact hexception

/-- The items at some indices, with their indices. -/
theorem getElem?_of_mem_zip {α : Type} {items : List α} {indices : List Nat}
    (hall : ∀ index ∈ indices, index < items.length) {pair : Int × α}
    (h : pair ∈ (indices.map Int.ofNat).zip (indices.filterMap (items[·]?))) :
    ∃ index ∈ indices, pair.1 = Int.ofNat index ∧ items[index]? = some pair.2 := by
  induction indices with
  | nil => cases h
  | cons index indices ih =>
    rw [List.forall_mem_cons] at hall
    have hitem := List.getElem?_eq_getElem hall.1
    rw [List.map_cons, List.filterMap_cons_some hitem, List.zip_cons_cons] at h
    rcases List.mem_cons.mp h with rfl | hlater
    · exact ⟨index, List.mem_cons_self, rfl, hitem⟩
    · obtain ⟨other, hmem, hfound⟩ := ih hall.2 hlater
      exact ⟨other, List.mem_cons_of_mem _ hmem, hfound⟩

/-- The indices of the values are those behind the template. -/
theorem mem_valueIndices_iff {call : CallSite} {shape : Shape} {binding : Binding}
    (h : call.match? shape = some binding) {index : Nat} :
    index ∈ binding.valueIndices ↔
      binding.templateIndex < index ∧ index < call.arguments.length := by
  obtain ⟨roles, _, rfl⟩ := Option.map_eq_some_iff.mp h
  simp only [Binding.ofRoles, List.mem_drop_iff_getElem, List.getElem_range, List.length_range]
  constructor
  · rintro ⟨i, hi, rfl⟩
    omega
  · rintro ⟨hlt, hlength⟩
    exact ⟨index - (List.idxOf Role.template roles + 1), by omega, by omega⟩

/-- What an analysis that reports something has found. -/
theorem CallSite.exists_of_mem_analyze {call : CallSite} {table : ShapeTable}
    {found : List Diagnostic} {d : Diagnostic} (h : call.analyze table = .ok found)
    (hd : d ∈ found) :
    ∃ shape binding template, table.lookup call.method = some shape ∧
      call.match? shape = some binding ∧
      call.arguments[binding.templateIndex]? = some template ∧
      analyzeParts template (binding.valueIndices.filterMap (call.arguments[·]?)) (some shape)
        (binding.valueIndices.map Int.ofNat) binding.templateIndex = .ok found := by
  unfold CallSite.analyze at h
  split at h
  · cases h
    cases hd
  · next shape hshape =>
    split at h
    · cases h
      cases hd
    · next binding hbinding =>
      split at h
      · cases h
        cases hd
      · next template htemplate => exact ⟨shape, binding, template, hshape, hbinding, htemplate, h⟩

/-- The move of a diagnostic about an exception takes the exception from its place behind
the template to the index of the template. -/
theorem CallSite.misplaced_of_mem_analyze {call : CallSite} {table : ShapeTable}
    {found : List Diagnostic} {d : Diagnostic} (h : call.analyze table = .ok found)
    (hd : d ∈ found) (hrule : d.rule = .exceptionNotFirst) :
    ∃ shape binding source exc, table.lookup call.method = some shape ∧
      call.match? shape = some binding ∧
      d = misplacedException exc (source : Nat) binding.templateIndex ∧
      Misplaced call.arguments source binding.templateIndex exc := by
  obtain ⟨shape, binding, template, hshape, hbinding, _, hparts⟩ := exists_of_mem_analyze h hd
  obtain ⟨pair, hpair, rfl⟩ :=
    List.mem_map.mp (mem_exceptionDiagnostics_of_rule hparts hd hrule)
  obtain ⟨hzip, hexception⟩ := List.mem_filter.mp hpair
  obtain ⟨source, hsource, hindex, hitem⟩ := getElem?_of_mem_zip
    (fun index hindex => ((mem_valueIndices_iff hbinding).mp hindex).2) hzip
  refine ⟨shape, binding, source, pair.2, hshape, hbinding, ?_, hitem, hexception,
    ((mem_valueIndices_iff hbinding).mp hsource).1⟩
  rw [hindex]
  rfl

end TemplateLint
