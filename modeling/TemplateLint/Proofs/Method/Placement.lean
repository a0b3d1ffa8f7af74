import Mathlib.Data.List.Basic
import TemplateLint.Method.Overload

/-!
# Where the roles of an overload stand

The check of an overload looks at each role with its position. Main statements: it passes
exactly if there is one template and every role suits its position; and in every overload the
exceptions stand before the template, also when its receiver is left out.
-/

namespace TemplateLint

/-- Roles with one template and no exception behind it. -/
structure WellPlaced (roles : List Role) : Prop where
  /-- There is one template. -/
  count_template : roles.count .template = 1
  /-- An exception stands before the template. -/
  lt_template_of_exception {index : Nat} (h : roles[index]? = some .exception) :
    index < roles.idxOf .template

namespace Overload

/-- The roles from a position on pass the check exactly when each of them passes at its own
position. -/
theorem checkRoles_eq_ok_iff {templateAt count position : Nat} {roles : List Role} :
    checkRoles templateAt count position roles = .ok () ↔
      ∀ index role, roles[index]? = some role →
        checkRole templateAt count (position + index) role = .ok () := by
  induction roles generalizing position with
  | nil => simp [checkRoles]
  | cons first rest ih =>
    have hrest : (∀ index role, (first :: rest)[index]? = some role →
        checkRole templateAt count (position + index) role = .ok ()) ↔
          checkRole templateAt count position first = .ok () ∧
            checkRoles templateAt count (position + 1) rest = .ok () := by
      rw [ih]
      constructor
      · intro h
        refine ⟨h 0 first rfl, fun index role hrole => ?_⟩
        rw [Nat.add_right_comm]
        exact h (index + 1) role hrole
      · rintro ⟨hfirst, hlater⟩ index role hrole
        cases index with
        | zero =>
          cases hrole
          exact hfirst
        | succ index =>
          rw [← Nat.add_assoc, Nat.add_right_comm]
          exact hlater index role hrole
    rw [hrest, checkRoles]
    split
    · next fault hfault => simp [hfault]
    · next hfirst => simp [hfirst]

/-- A list of roles is an overload exactly when it has one template and each role suits its
position. -/
theorem validate_eq_ok_iff {roles : List Role} :
    validate roles = .ok () ↔ roles.count .template = 1 ∧
      ∀ index role, roles[index]? = some role →
        checkRole (roles.idxOf .template) roles.length index role = .ok () := by
  unfold validate
  split
  · next hcount => simp only [hcount, true_and, checkRoles_eq_ok_iff, Nat.zero_add]
  · next hcount => simp [hcount]

/-- A role that occurs once stands where it is found. -/
theorem eq_idxOf_of_count_eq_one {roles : List Role} {role : Role} {index : Nat}
    (hcount : roles.count role = 1) (h : roles[index]? = some role) :
    index = roles.idxOf role := by
  obtain ⟨hlt, hget⟩ := List.getElem?_eq_some_iff.mp h
  have hsplit : roles = roles.take index ++ role :: roles.drop (index + 1) := by
    rw [← hget, ← List.drop_eq_getElem_cons hlt, List.take_append_drop]
  have hfront : role ∉ roles.take index := by
    intro hmem
    have hpos := List.count_pos_iff.mpr hmem
    rw [hsplit, List.count_append, List.count_cons_self] at hcount
    omega
  rw [hsplit, List.idxOf_append_of_notMem hfront, List.idxOf_cons_self, List.length_take]
  omega

variable (overload : Overload)

/-- There is one template. -/
theorem count_template : overload.roles.count .template = 1 :=
  (validate_eq_ok_iff.mp overload.valid).1

/-- Every overload has a template. -/
theorem template_mem : Role.template ∈ overload.roles := by
  have hcount := overload.count_template
  exact List.count_pos_iff.mp (by omega)

/-- An exception stands before the template. -/
theorem lt_template_of_exception {index : Nat}
    (h : overload.roles[index]? = some .exception) :
    index < overload.roles.idxOf .template := by
  have hcheck := (validate_eq_ok_iff.mp overload.valid).2 index .exception h
  have hle : index ≤ overload.roles.idxOf .template := by
    simpa [checkRole] using hcheck
  refine Nat.lt_of_le_of_ne hle fun heq => ?_
  rw [heq, List.getElem?_idxOf overload.template_mem] at h
  cases h

/-- The roles of every overload are well placed. -/
theorem wellPlaced : WellPlaced overload.roles :=
  ⟨overload.count_template, overload.lt_template_of_exception⟩

end Overload

namespace WellPlaced

variable {roles : List Role} {index : Nat}

/-- Without the receiver the others are still well placed. -/
theorem tail (h : WellPlaced (.receiver :: roles)) : WellPlaced roles where
  count_template := by simpa using h.count_template
  lt_template_of_exception hexception := by
    have hlt := h.lt_template_of_exception (List.getElem?_cons_succ.trans hexception)
    rw [List.idxOf_cons_ne _ (by nofun)] at hlt
    exact Nat.lt_of_succ_lt_succ hlt

/-- There is a template. -/
theorem template_mem (h : WellPlaced roles) : .template ∈ roles := by
  have hcount := h.count_template
  exact List.count_pos_iff.mp (by omega)

/-- The template stands where it is found. -/
theorem getElem?_idxOf (h : WellPlaced roles) :
    roles[roles.idxOf .template]? = some .template :=
  List.getElem?_idxOf h.template_mem

/-- Only the template has its role. -/
theorem eq_idxOf (h : WellPlaced roles) (hrole : roles[index]? = some .template) :
    index = roles.idxOf .template :=
  Overload.eq_idxOf_of_count_eq_one h.count_template hrole

/-- Without a role in front of it the template stands one place further to the left. -/
theorem idxOf_eraseIdx (h : WellPlaced roles) (hlt : index < roles.idxOf .template) :
    (roles.eraseIdx index).idxOf .template + 1 = roles.idxOf .template := by
  have hlength := List.idxOf_lt_length_of_mem h.template_mem
  have hfront : Role.template ∉ roles.take index := by
    intro hmem
    obtain ⟨place, hplace⟩ := List.mem_iff_getElem?.mp hmem
    have hbelow : place < index := by
      have hbound := (List.getElem?_eq_some_iff.mp hplace).1
      rw [List.length_take] at hbound
      omega
    rw [List.getElem?_take_of_lt hbelow] at hplace
    have hsame := h.eq_idxOf hplace
    omega
  have hlater : index < roles.length := Nat.lt_trans hlt hlength
  have hne : roles[index] ≠ .template := by
    intro hrole
    have hsame := h.eq_idxOf (List.getElem?_eq_some_iff.mpr ⟨hlater, hrole⟩)
    omega
  have hsplit : roles = roles.take index ++ roles[index] :: roles.drop (index + 1) := by
    rw [← List.drop_eq_getElem_cons hlater, List.take_append_drop]
  have hidx : roles.idxOf .template =
      (roles.take index).length + ((roles.drop (index + 1)).idxOf .template + 1) := by
    conv_lhs => rw [hsplit]
    rw [List.idxOf_append_of_notMem hfront, List.idxOf_cons_ne _ hne]
  rw [List.eraseIdx_eq_take_drop_succ, List.idxOf_append_of_notMem hfront, hidx, Nat.add_assoc]

end WellPlaced

end TemplateLint
