import TemplateLint.Proofs.Call.Matched

/-!
# Matching through merged shapes

The overloads of a shape that is merged into another one are tried after those of the other
one, less the overloads that are there already. Main statement: a call with a constant template
is read as before, a call that was not read is read as the added shape reads it, and a call
whose template is no constant is read as before or through an added overload with a constant
template.
-/

namespace TemplateLint

section Search

variable {f : Overload → Option (List Role)} {p : List Role → Bool}

/-- An added overload is tried after those that are there; one that is there already changes
nothing. -/
theorem find?_filterMap_addOverload (overloads : List Overload) (overload : Overload) :
    ((Shape.addOverload overloads overload).filterMap f).find? p =
      ((overloads.filterMap f).find? p).or (([overload].filterMap f).find? p) := by
  unfold Shape.addOverload
  split
  · next hmem =>
    cases hfound : (overloads.filterMap f).find? p with
    | some roles => rfl
    | none =>
      have hnone : ([overload].filterMap f).find? p = none := by
        rw [List.find?_eq_none] at hfound ⊢
        intro roles hroles
        obtain ⟨other, hother, hread⟩ := List.mem_filterMap.mp hroles
        cases List.mem_singleton.mp hother
        exact hfound roles (List.mem_filterMap.mpr ⟨overload, hmem, hread⟩)
      rw [hnone, Option.none_or]
  · rw [List.filterMap_append, List.find?_append]

/-- Overloads that are added one after the other are tried in this order. -/
theorem find?_filterMap_foldl_addOverload (overloads more : List Overload) :
    ((more.foldl Shape.addOverload overloads).filterMap f).find? p =
      ((overloads.filterMap f).find? p).or ((more.filterMap f).find? p) := by
  induction more generalizing overloads with
  | nil => exact (Option.or_none).symm
  | cons overload more ih =>
    rw [List.foldl_cons, ih, find?_filterMap_addOverload, Option.or_assoc, ← List.find?_append,
      ← List.filterMap_append, List.singleton_append]

end Search

namespace CallSite

variable {call : CallSite} {a b shape : Shape} {roles : List Role} {binding : Binding}

/-- Among the candidates of a merged shape those of the first shape are found first. -/
theorem find?_candidates_merge (p : List Role → Bool) :
    (call.candidates (a.merge b)).find? p =
      ((call.candidates a).find? p).or ((call.candidates b).find? p) :=
  find?_filterMap_foldl_addOverload a.overloads b.overloads

/-- A merged shape is searched for constant templates as a whole before it is searched for strict
readings. -/
theorem choose?_merge : call.choose? (a.merge b) =
    (((call.candidates a).find? (reads true call.arguments)).or
        ((call.candidates b).find? (reads true call.arguments))).or
      (((call.candidates a).find? (reads false call.arguments)).or
        ((call.candidates b).find? (reads false call.arguments))) := by
  rw [choose?_eq, find?_candidates_merge, find?_candidates_merge]

/-- A reading with a constant template comes from the first search. -/
theorem find?_constant_of_match? (h : call.match? shape = some binding)
    (hconstant : call.BindsConstant binding) :
    (call.candidates shape).find? (reads true call.arguments) = some binding.roles := by
  have hread := readAs_of_match? h
  have hreads := hread.eligible.reads_iff.1.mpr (hread.bindsConstant_iff.mp hconstant)
  obtain ⟨roles, hchosen, rfl⟩ := Option.map_eq_some_iff.mp h
  rw [choose?_eq] at hchosen
  cases hfound : (call.candidates shape).find? (reads true call.arguments) with
  | none => exact absurd hreads (find?_candidates_eq_none_iff.mp hfound roles hread.eligible)
  | some first =>
    rw [hfound] at hchosen
    exact hchosen

/-- What the first search finds is the reading of the call, and its template is a constant. -/
theorem match?_of_find?_constant
    (h : (call.candidates shape).find? (reads true call.arguments) = some roles) :
    call.match? shape = some (.ofRoles roles call.arguments) ∧
      call.BindsConstant (.ofRoles roles call.arguments) := by
  have hmatch : call.match? shape = some (.ofRoles roles call.arguments) := by
    rw [match?, choose?_eq, h]
    rfl
  have heligible := mem_candidates_iff.mp (List.mem_of_find?_eq_some h)
  exact ⟨hmatch, (readAs_of_match? hmatch).bindsConstant_iff.mpr
    (heligible.reads_iff.1.mp (List.find?_some h))⟩

end CallSite

/-- Added overloads do not disturb a settled call: if a shape reads the call with a constant
template, the merged shape reads it in the same way; if the shape does not read the call, the
merged shape reads it as the added one does; and otherwise the merged shape reads it as before,
or through an overload of the added shape and with a constant template. -/
theorem merge_keeps_settled_match (call : CallSite) (a b : Shape) :
    (∀ binding, call.match? a = some binding → call.BindsConstant binding →
        call.match? (a.merge b) = some binding) ∧
      (call.match? a = none → call.match? (a.merge b) = call.match? b) ∧
      (∀ binding, call.match? a = some binding → ¬ call.BindsConstant binding →
        call.match? (a.merge b) = some binding ∨
          ∃ other, call.match? (a.merge b) = some other ∧ call.ReadAs b other ∧
            call.BindsConstant other) := by
  refine ⟨fun binding h hconstant => ?_, fun h => ?_, fun binding h hconstant => ?_⟩
  · have hfound := CallSite.find?_constant_of_match? h hconstant
    rw [← h, CallSite.match?, CallSite.match?, CallSite.choose?_merge, CallSite.choose?_eq, hfound]
    rfl
  · rw [CallSite.match?, Option.map_eq_none_iff, CallSite.choose?_eq, Option.or_eq_none_iff] at h
    rw [CallSite.match?, CallSite.match?, CallSite.choose?_merge, CallSite.choose?_eq, h.1, h.2,
      Option.none_or, Option.none_or]
  · have hnone : (call.candidates a).find? (reads true call.arguments) = none := by
      refine Option.eq_none_iff_forall_ne_some.mpr fun roles hfound => hconstant ?_
      obtain ⟨hmatch, hbinds⟩ := CallSite.match?_of_find?_constant hfound
      cases h.symm.trans hmatch
      exact hbinds
    rw [CallSite.match?, CallSite.choose?_eq, hnone, Option.none_or] at h
    rw [CallSite.match?, CallSite.choose?_merge, hnone, Option.none_or]
    cases hadded : (call.candidates b).find? (reads true call.arguments) with
    | none =>
      obtain ⟨roles, hfound, rfl⟩ := Option.map_eq_some_iff.mp h
      rw [hfound]
      exact .inl rfl
    | some roles =>
      obtain ⟨hmatch, hbinds⟩ := CallSite.match?_of_find?_constant hadded
      exact .inr ⟨_, rfl, CallSite.readAs_of_match? hmatch, hbinds⟩

/-- A strict reading gives way to an added overload whose template is a constant, and a reading
with a constant template does not give way to an added overload that reads the call too. -/
theorem merge_keeps_settled_match_added :
    let level : Argument := { text := "level" }
    let template : Argument := { text := "t", constant := some (Text.ofString "x") }
    let call : CallSite := { method := "Write", arguments := [level, template] }
    let a : Shape := { name := "Write", overloads := [ShapeTable.logging []] }
    let b : Shape := { name := "Write", overloads := [ShapeTable.logging [.other]] }
    let plain : Binding := ⟨[.template, .values], 0, [1], none⟩
    let added : Binding := ⟨[.other, .template, .values], 1, [], none⟩
    call.match? a = some plain ∧ ¬ call.BindsConstant plain ∧ call.match? (a.merge b) = some added ∧
      (call.match? (a.merge b) = some plain ∨ ∃ other, call.match? (a.merge b) = some other ∧
        call.ReadAs b other ∧ call.BindsConstant other) ∧
      call.match? b = some added ∧ call.match? (b.merge a) = some added := by
  intro level template call a b plain added
  have ha : call.match? a = some plain := by decide
  have hb : call.match? b = some added := by decide
  have hplain : ¬ call.BindsConstant plain := by
    have hnone : level.template? = none := by decide
    rintro ⟨arg, value, harg, hvalue⟩
    cases harg
    rw [← Argument.template?_eq_some_iff, hnone] at hvalue
    cases hvalue
  have hadded : call.BindsConstant added := ⟨template, Text.ofString "x", rfl, .constant rfl⟩
  exact ⟨ha, hplain, by decide, (merge_keeps_settled_match call a b).2.2 plain ha hplain, hb,
    (merge_keeps_settled_match call b a).1 added hb hadded⟩

end TemplateLint
