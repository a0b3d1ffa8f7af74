import TemplateLint.Proofs.Call.Moved

/-!
# Ladders of overloads

A ladder is a list of overloads with more and more arguments in front of the template,
each followed by the overload with a place for an exception right before the template.
Every shape that is known without configuration is a ladder. Main statements: which
arguments an overload of a ladder reads, which overload is found first, and how both change
when a misplaced exception is moved to where the template stood.
-/

namespace TemplateLint

/-- The roles of an overload with some arguments in front of its template. -/
def plainRoles (lead : Nat) : List Role :=
  List.replicate lead .other ++ [.template, .values]

/-- The same roles with a place for an exception in front of the template. -/
def slottedRoles (lead : Nat) : List Role :=
  List.replicate lead .other ++ [.exception, .template, .values]

/-- The overloads with `first` arguments and more in front of the template, each without a
place for an exception and then with one. -/
def ladder (first : Nat) : Nat → List (List Role)
  | 0 => []
  | count + 1 => plainRoles first :: slottedRoles first :: ladder (first + 1) count

/-- Whether the overloads of a shape are a ladder. -/
def Shape.IsLadder (shape : Shape) (first count : Nat) : Prop :=
  shape.overloads.map Overload.roles = ladder first count

/-- Every shape that is known without configuration is a ladder. -/
theorem isLadder_of_lookup_default {name : Text} {shape : Shape}
    (h : ShapeTable.default.lookup name = some shape) :
    ∃ first count, shape.IsLadder first count := by
  have hall : ∀ shape ∈ ShapeTable.default.shapes, shape.overloads.map Overload.roles ∈
      [ladder 0 1, ladder 1 1, ladder 0 2, ladder 1 2] := by decide
  have hmem := hall shape (List.mem_of_find?_eq_some h)
  simp only [List.mem_cons, List.not_mem_nil, or_false] at hmem
  rcases hmem with h | h | h | h
  · exact ⟨0, 1, h⟩
  · exact ⟨1, 1, h⟩
  · exact ⟨0, 2, h⟩
  · exact ⟨1, 2, h⟩

/-- A role that no leading argument has is found after them. -/
theorem idxOf_replicate_append {role : Role} (hne : role ≠ .other) (lead : Nat)
    (roles : List Role) :
    (List.replicate lead Role.other ++ roles).idxOf role = lead + roles.idxOf role := by
  rw [List.idxOf_append_of_notMem fun h => hne (List.eq_of_mem_replicate h),
    List.length_replicate]

/-- No leading argument is a template. -/
theorem count_template_replicate_append (lead : Nat) (roles : List Role) :
    (List.replicate lead Role.other ++ roles).count .template = roles.count .template := by
  rw [List.count_append, List.count_replicate]
  exact Nat.zero_add _

/-- The template comes right after the arguments in front of it. -/
theorem idxOf_template_plainRoles (lead : Nat) : (plainRoles lead).idxOf .template = lead :=
  idxOf_replicate_append (by nofun) lead _

/-- The template comes after the place for an exception. -/
theorem idxOf_template_slottedRoles (lead : Nat) :
    (slottedRoles lead).idxOf .template = lead + 1 :=
  idxOf_replicate_append (by nofun) lead _

/-- The place for an exception comes right after the arguments in front of it. -/
theorem idxOf_exception_slottedRoles (lead : Nat) :
    (slottedRoles lead).idxOf .exception = lead :=
  idxOf_replicate_append (by nofun) lead _

/-- There is a place for an exception. -/
theorem exception_mem_slottedRoles (lead : Nat) : Role.exception ∈ slottedRoles lead :=
  List.mem_append_right _ (by decide)

/-- There is only one place for an exception. -/
theorem getElem?_slottedRoles_eq_exception_iff {lead index : Nat} :
    (slottedRoles lead)[index]? = some .exception ↔ index = lead := by
  rw [slottedRoles, List.getElem?_append, List.length_replicate]
  split
  · next hlt =>
    rw [List.getElem?_replicate_of_lt hlt]
    exact ⟨nofun, fun h => by omega⟩
  · next hge =>
    constructor
    · intro h
      rcases hindex : index - lead with _ | _ | _ | _
      · omega
      · rw [hindex] at h
        cases h
      · rw [hindex] at h
        cases h
      · rw [hindex] at h
        cases h
    · rintro rfl
      rw [Nat.sub_self]
      rfl

/-- There is no place for an exception. -/
theorem exception_not_mem_plainRoles (lead : Nat) : Role.exception ∉ plainRoles lead := by
  intro h
  rcases List.mem_append.mp h with hlead | htail
  · exact absurd (List.eq_of_mem_replicate hlead) (by decide)
  · exact absurd htail (by decide)

/-- An overload without a place for an exception is well placed. -/
theorem wellPlaced_plainRoles (lead : Nat) : WellPlaced (plainRoles lead) where
  count_template := count_template_replicate_append lead _
  lt_template_of_exception h :=
    absurd (List.mem_of_getElem? h) (exception_not_mem_plainRoles lead)

/-- An overload with a place for an exception is well placed. -/
theorem wellPlaced_slottedRoles (lead : Nat) : WellPlaced (slottedRoles lead) where
  count_template := count_template_replicate_append lead _
  lt_template_of_exception h := by
    rw [getElem?_slottedRoles_eq_exception_iff.mp h, idxOf_template_slottedRoles]
    exact Nat.lt_succ_self lead

/-- Without the place for an exception the two overloads are the same. -/
theorem eraseIdx_slottedRoles (lead : Nat) :
    (slottedRoles lead).eraseIdx lead = plainRoles lead := by
  rw [slottedRoles, plainRoles, List.eraseIdx_append_of_length_le (by simp),
    List.length_replicate, Nat.sub_self]
  rfl

section Reading

variable {lenient : Bool} {roles : List Role}

/-- An overload without a place for an exception asks for an argument that can be a
template at its place. -/
theorem fits_plainRoles (lead : Nat) (args : List Argument) :
    fits lenient (plainRoles lead) args = args[lead]?.any Argument.mayBeTemplate := by
  induction lead generalizing args with
  | zero =>
    cases args with
    | nil => exact fits_nil (List.cons_ne_nil _ _) _
    | cons arg args =>
      have hfits : fits lenient [.template, .values] (arg :: args) =
          (arg.mayBeTemplate && fits lenient [.values] args) :=
        fits_cons (List.cons_ne_nil _ _) _ _ _
      rw [fits_values, Bool.and_true] at hfits
      exact hfits
  | succ lead ih =>
    have hne : plainRoles lead ≠ [] := by simp [plainRoles]
    rw [plainRoles, List.replicate_succ, List.cons_append, ← plainRoles]
    cases args with
    | nil => exact fits_nil hne _
    | cons arg args =>
      rw [fits_cons hne, ih, List.getElem?_cons_succ]
      exact Bool.true_and _

/-- An overload with a place for an exception asks for an argument that it admits there and
for one that can be a template behind it. -/
theorem fits_slottedRoles (lead : Nat) (args : List Argument) :
    fits lenient (slottedRoles lead) args =
      (args[lead]?.any (Role.exception.accepts lenient) &&
        args[lead + 1]?.any Argument.mayBeTemplate) := by
  have hslot : (slottedRoles lead)[lead]? = some .exception :=
    getElem?_slottedRoles_eq_exception_iff.mpr rfl
  cases harg : args[lead]? with
  | none =>
    rw [Option.any_none, Bool.false_and, Bool.eq_false_iff]
    intro hfits
    obtain ⟨arg, hfilled, _⟩ := exists_accepted_of_fits hfits hslot (by nofun)
    cases harg.symm.trans hfilled
  | some arg =>
    rw [fits_eraseIdx hslot (by simp [slottedRoles]) harg, eraseIdx_slottedRoles, fits_plainRoles,
      List.getElem?_eraseIdx_of_ge (Nat.le_refl lead), Option.any_some]

end Reading

/-- Whether an argument can stand in the place of the template in such a reading. -/
def Argument.isTemplate (constant : Bool) (arg : Argument) : Bool :=
  arg.mayBeTemplate && (!constant || arg.template?.isSome)

section Ladder

variable {constant : Bool} {args : List Argument}

/-- A reading without a place for an exception. -/
theorem reads_plainRoles (lead : Nat) :
    reads constant args (plainRoles lead) = args[lead]?.any (Argument.isTemplate constant) := by
  rw [reads, fits_plainRoles, hasConstantTemplate, templateArgument?, idxOf_template_plainRoles]
  cases args[lead]? with
  | none => rfl
  | some arg => rfl

/-- A reading with a place for an exception. -/
theorem reads_slottedRoles (lead : Nat) :
    reads constant args (slottedRoles lead) =
      (args[lead]?.any (Role.exception.accepts constant) &&
        args[lead + 1]?.any (Argument.isTemplate constant)) := by
  rw [reads, fits_slottedRoles, hasConstantTemplate, templateArgument?,
    idxOf_template_slottedRoles]
  cases args[lead + 1]? with
  | none => simp
  | some arg => exact Bool.and_assoc _ _ _

variable {p : List Role → Bool} {first count : Nat} {roles : List Role}

/-- The overloads of a ladder. -/
theorem mem_ladder_iff : roles ∈ ladder first count ↔
    ∃ lead, first ≤ lead ∧ lead < first + count ∧
      (roles = plainRoles lead ∨ roles = slottedRoles lead) := by
  induction count generalizing first with
  | zero =>
    refine ⟨nofun, ?_⟩
    rintro ⟨lead, hle, hlt, _⟩
    omega
  | succ count ih =>
    rw [ladder, List.mem_cons, List.mem_cons, ih]
    constructor
    · rintro (rfl | rfl | ⟨lead, hle, hlt, h⟩)
      · exact ⟨first, Nat.le_refl _, by omega, .inl rfl⟩
      · exact ⟨first, Nat.le_refl _, by omega, .inr rfl⟩
      · exact ⟨lead, by omega, by omega, h⟩
    · rintro ⟨lead, hle, hlt, h⟩
      rcases Nat.eq_or_lt_of_le hle with rfl | hmore
      · rcases h with h | h
        · exact .inl h
        · exact .inr (.inl h)
      · exact .inr (.inr ⟨lead, hmore, by omega, h⟩)

/-- Nothing is found on a ladder exactly if every overload is refused. -/
theorem find?_ladder_eq_none_iff : (ladder first count).find? p = none ↔
    ∀ lead, first ≤ lead → lead < first + count →
      p (plainRoles lead) = false ∧ p (slottedRoles lead) = false := by
  rw [List.find?_eq_none]
  constructor
  · intro h lead hle hlt
    exact ⟨Bool.eq_false_iff.mpr (h _ (mem_ladder_iff.mpr ⟨lead, hle, hlt, .inl rfl⟩)),
      Bool.eq_false_iff.mpr (h _ (mem_ladder_iff.mpr ⟨lead, hle, hlt, .inr rfl⟩))⟩
  · intro h roles hmem
    obtain ⟨lead, hle, hlt, rfl | rfl⟩ := mem_ladder_iff.mp hmem
    · exact Bool.eq_false_iff.mp (h lead hle hlt).1
    · exact Bool.eq_false_iff.mp (h lead hle hlt).2

/-- The overload that is found comes after refused ones. -/
theorem find?_ladder_eq_some (h : (ladder first count).find? p = some roles) :
    ∃ lead, first ≤ lead ∧ lead < first + count ∧
      (∀ lower, first ≤ lower → lower < lead →
        p (plainRoles lower) = false ∧ p (slottedRoles lower) = false) ∧
      (roles = plainRoles lead ∨ p (plainRoles lead) = false ∧ roles = slottedRoles lead) := by
  induction count generalizing first with
  | zero => cases h
  | succ count ih =>
    rw [ladder, List.find?_cons] at h
    split at h
    · cases h
      exact ⟨first, Nat.le_refl _, by omega, fun lower _ _ => by omega, .inl rfl⟩
    · next hplain =>
      rw [List.find?_cons] at h
      split at h
      · cases h
        exact ⟨first, Nat.le_refl _, by omega, fun lower _ _ => by omega,
          .inr ⟨hplain, rfl⟩⟩
      · next hslotted =>
        obtain ⟨lead, hle, hlt, hbelow, hroles⟩ := ih h
        refine ⟨lead, by omega, by omega, fun lower hfirst hlower => ?_, hroles⟩
        rcases Nat.eq_or_lt_of_le hfirst with rfl | hmore
        · exact ⟨hplain, hslotted⟩
        · exact hbelow lower hmore hlower

/-- The first overload with a place for an exception is found if everything before it is
refused. -/
theorem find?_ladder_slotted {lead : Nat} (hle : first ≤ lead) (hlt : lead < first + count)
    (hbelow : ∀ lower, first ≤ lower → lower < lead →
      p (plainRoles lower) = false ∧ p (slottedRoles lower) = false)
    (hplain : p (plainRoles lead) = false) (hslotted : p (slottedRoles lead) = true) :
    (ladder first count).find? p = some (slottedRoles lead) := by
  induction count generalizing first with
  | zero => omega
  | succ count ih =>
    rw [ladder]
    rcases Nat.eq_or_lt_of_le hle with rfl | hmore
    · rw [List.find?_cons_of_neg (by simp [hplain]), List.find?_cons_of_pos hslotted]
    · obtain ⟨hfirst, hnext⟩ := hbelow first (Nat.le_refl _) hmore
      rw [List.find?_cons_of_neg (by simp [hfirst]), List.find?_cons_of_neg (by simp [hnext])]
      exact ih hmore (by omega) fun lower hlower => hbelow lower (by omega)

end Ladder

namespace Misplaced

open Source

variable {constant : Bool} {args : List Argument} {source target : Nat} {exc : Argument}
  {first count lead : Nat} {roles : List Role}

/-- What stands in front of the target is read as before the move. -/
theorem reads_plain_of_lt (h : Misplaced args source target exc) (hlt : lead < target) :
    reads constant (moveItem args source target) (plainRoles lead) =
      reads constant args (plainRoles lead) :=
  h.reads_of_lt (wellPlaced_plainRoles lead) (by rwa [idxOf_template_plainRoles])

/-- Behind a place for an exception in front of the target there is either what was there
before the move or the exception itself. -/
theorem reads_slotted_of_lt (h : Misplaced args source target exc) (hlt : lead < target)
    (hrefused : lead + 1 < target → reads constant args (slottedRoles lead) = false) :
    reads constant (moveItem args source target) (slottedRoles lead) = false := by
  have hroles := wellPlaced_slottedRoles lead
  have hplace := idxOf_template_slottedRoles lead
  rcases Nat.lt_or_eq_of_le (Nat.succ_le_of_lt hlt) with hnext | hnext
  · rw [h.reads_of_lt hroles (by rwa [hplace])]
    exact hrefused hnext
  · exact h.reads_of_eq hroles (hplace.trans hnext)

/-- The moved exception is no template. -/
theorem reads_plain_target (h : Misplaced args source target exc) :
    reads constant (moveItem args source target) (plainRoles target) = false :=
  h.reads_of_eq (wellPlaced_plainRoles target) (idxOf_template_plainRoles target)

/-- The moved exception fills the place for an exception, and behind it comes what it
displaced. -/
theorem reads_slotted_target (h : Misplaced args source target exc) :
    reads constant (moveItem args source target) (slottedRoles target) =
      reads constant args (plainRoles target) := by
  have hbehind : target < (slottedRoles target).idxOf .template := by
    rw [idxOf_template_slottedRoles]
    exact Nat.lt_succ_self target
  rw [h.reads_of_gt (wellPlaced_slottedRoles target) hbehind, eraseIdx_slottedRoles,
    reads_plainRoles, reads_plainRoles, h.getElem?_eraseIdx (Nat.le_refl target)]

/-- Behind the target no overload reads the moved arguments unless one between the target
and it reads the arguments as they were. -/
theorem refused_of_lt (h : Misplaced args source target exc) (hlt : target < lead)
    (hrefused : ∀ lower, target ≤ lower → lower ≤ lead →
      reads constant args (plainRoles lower) = false ∧
        reads constant args (slottedRoles lower) = false) :
    reads constant (moveItem args source target) (plainRoles lead) = false ∧
      reads constant (moveItem args source target) (slottedRoles lead) = false := by
  have hget := h.getElem?_moved
  -- the template of an overload at `lead` has come from `lead` itself or from before it
  constructor
  · rw [reads_plainRoles, hget, if_neg (by omega), if_neg (by omega)]
    split
    · rw [← reads_plainRoles]
      exact (hrefused (lead - 1) (by omega) (by omega)).1
    · rw [← reads_plainRoles]
      exact (hrefused lead (by omega) (Nat.le_refl _)).1
  · have htemplate := (hrefused lead (by omega) (Nat.le_refl _)).1
    have hslot := (hrefused lead (by omega) (Nat.le_refl _)).2
    rw [reads_plainRoles] at htemplate
    rw [reads_slottedRoles] at hslot
    rw [reads_slottedRoles, hget (lead + 1), if_neg (by omega), if_neg (by omega)]
    by_cases hinside : lead + 1 ≤ source
    · rw [if_pos hinside, Nat.add_sub_cancel, htemplate, Bool.and_false]
    · rw [if_neg hinside]
      rcases Nat.eq_or_lt_of_le (Nat.le_of_not_lt hinside) with hsource | hbehind
      · -- the place for an exception held the exception before the move
        have hadmits : Role.exception.accepts constant exc = true := by
          simp [Role.accepts, h.isException]
        rw [← hsource, h.getElem?_eq, Option.any_some, hadmits, Bool.true_and] at hslot
        rw [← hsource, hslot, Bool.and_false]
      · rw [hget lead, if_neg (by omega), if_neg (by omega), if_neg (by omega), hslot]

end Misplaced

end TemplateLint
