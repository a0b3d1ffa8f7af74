import Mathlib.Data.List.Find
import TemplateLint.Proofs.Call.Reading

/-!
# Reading a call after a move

The move of a misplaced exception puts it where the template stands. Roles with their template in
front of this place read the call as before. Roles with their template behind it take the exception
through the role at this place, and their other roles read the other arguments. Roles with their
template at this place do not read the call. Main statement: for every shape, the template is kept
exactly if the first candidate that reads the call in one of the two ways has its template there.
The candidates are the overloads of the shape, without their receiver unless the call passes it.
-/

namespace TemplateLint

open Source

/-- Roles read arguments among which an exception has been moved to the left. The last number is the
index of the template among the arguments without the exception, so the arguments after the move are
not mentioned. -/
inductive ReadsMoved (constant : Bool) (args : List Argument) (source target : Nat)
    (roles : List Role) : Nat → Prop
  /-- The template is in front of the target, and the roles read what was there before. -/
  | before (hlt : roles.idxOf .template < target) (hreads : reads constant args roles = true) :
    ReadsMoved constant args source target roles (roles.idxOf .template)
  /-- The template is behind the target; the role at the target takes the exception, and the other
  roles read the other arguments. -/
  | behind {index : Nat} (hplace : roles.idxOf .template = index + 1) (hle : target ≤ index)
      (hreads : reads constant (args.eraseIdx source) (roles.eraseIdx target) = true) :
    ReadsMoved constant args source target roles index

/-- There is a reading exactly in one of two cases, which can be tested. -/
theorem exists_readsMoved_iff {constant : Bool} {args : List Argument} {source target : Nat}
    {roles : List Role} : (∃ index, ReadsMoved constant args source target roles index) ↔
      roles.idxOf .template < target ∧ reads constant args roles = true ∨
      target < roles.idxOf .template ∧
        reads constant (args.eraseIdx source) (roles.eraseIdx target) = true := by
  constructor
  · rintro ⟨index, hmoved⟩
    cases hmoved with
    | before hlt hreads => exact .inl ⟨hlt, hreads⟩
    | behind hplace hle hreads => exact .inr ⟨by omega, hreads⟩
  · rintro (⟨hlt, hreads⟩ | ⟨hlt, hreads⟩)
    · exact ⟨_, .before hlt hreads⟩
    · exact ⟨roles.idxOf .template - 1, .behind (by omega) (by omega) hreads⟩

instance (constant : Bool) (args : List Argument) (source target : Nat) (roles : List Role) :
    Decidable (∃ index, ReadsMoved constant args source target roles index) :=
  decidable_of_iff _ exists_readsMoved_iff.symm

namespace Misplaced

variable {constant : Bool} {args : List Argument} {source target index : Nat} {exc : Argument}
  {roles : List Role}

/-- The exception is one of the arguments. -/
theorem source_lt (h : Misplaced args source target exc) : source < args.length :=
  (List.getElem?_eq_some_iff.mp h.getElem?_eq).1

/-- There is an argument at the target. -/
theorem exists_target (h : Misplaced args source target exc) :
    ∃ template, args[target]? = some template :=
  ⟨_, List.getElem?_eq_getElem (Nat.lt_trans h.lt h.source_lt)⟩

/-- What stands at an index after the move. -/
theorem getElem?_moved (h : Misplaced args source target exc) (index : Nat) :
    (moveItem args source target)[index]? =
      if index < target then args[index]?
      else if index = target then some exc
      else if index ≤ source then args[index - 1]?
      else args[index]? :=
  getElem?_moveItem h.getElem?_eq (Nat.le_of_lt h.lt) index

/-- The target holds the exception. -/
theorem getElem?_target (h : Misplaced args source target exc) :
    (moveItem args source target)[target]? = some exc := by
  rw [h.getElem?_moved, if_neg (Nat.lt_irrefl _), if_pos rfl]

/-- In front of the target the arguments are those before the move. -/
theorem getElem?_of_lt (h : Misplaced args source target exc) (hlt : index < target) :
    (moveItem args source target)[index]? = args[index]? := by
  rw [h.getElem?_moved, if_pos hlt]

/-- Behind the target the arguments are those without the exception. -/
theorem getElem?_succ (h : Misplaced args source target exc) (hle : target ≤ index) :
    (moveItem args source target)[index + 1]? = (args.eraseIdx source)[index]? := by
  rw [← eraseIdx_moveItem h.source_lt target, List.getElem?_eraseIdx_of_ge hle]

/-- In front of the source the arguments without the exception are those with it. -/
theorem getElem?_eraseIdx (h : Misplaced args source target exc) (hle : index ≤ target) :
    (args.eraseIdx source)[index]? = args[index]? :=
  List.getElem?_eraseIdx_of_lt (Nat.lt_of_le_of_lt hle h.lt)

/-! ### One list of roles -/

/-- Roles with their template in front of the target read the arguments as before. -/
theorem reads_of_lt (h : Misplaced args source target exc) (hroles : WellPlaced roles)
    (hlt : roles.idxOf .template < target) :
    reads constant (moveItem args source target) roles = reads constant args roles := by
  have hfits : fits constant roles (moveItem args source target) = fits constant roles args :=
    hroles.fits_congr (length_moveItem h.source_lt (Nat.le_of_lt h.lt))
      fun index hle => h.getElem?_of_lt (Nat.lt_of_le_of_lt hle hlt)
  rw [reads, reads, hfits, hasConstantTemplate, hasConstantTemplate, templateArgument?,
    templateArgument?, h.getElem?_of_lt hlt]

/-- Roles with their template at the target do not read the arguments. -/
theorem reads_of_eq (h : Misplaced args source target exc) (hroles : WellPlaced roles)
    (heq : roles.idxOf .template = target) :
    reads constant (moveItem args source target) roles = false := by
  rw [reads, Bool.and_eq_false_iff]
  refine .inl (Bool.eq_false_iff.mpr fun hfits => ?_)
  have haccepts := (fits_eq_true_iff.mp hfits).2 target .template exc
    (heq ▸ hroles.getElem?_idxOf) h.getElem?_target
  simp [Role.accepts, Argument.mayBeTemplate, h.isException] at haccepts

/-- Of roles with their template behind the target, the one at the target takes the exception and
the others read the other arguments. -/
theorem reads_of_gt (h : Misplaced args source target exc) (hroles : WellPlaced roles)
    (hlt : target < roles.idxOf .template) :
    reads constant (moveItem args source target) roles =
      reads constant (args.eraseIdx source) (roles.eraseIdx target) := by
  have hlength := List.idxOf_lt_length_of_mem hroles.template_mem
  have hrole := List.getElem?_eq_getElem (Nat.lt_trans hlt hlength)
  have hadmits : (roles[target]).accepts constant exc = true := by
    cases hcase : roles[target] with
    | template =>
      rw [hcase] at hrole
      exact absurd (hroles.eq_idxOf hrole) (Nat.ne_of_lt hlt)
    | exception => simp [Role.accepts, h.isException]
    | _ => rfl
  have hplace := hroles.idxOf_eraseIdx hlt
  have htemplate : templateArgument? roles (moveItem args source target) =
      templateArgument? (roles.eraseIdx target) (args.eraseIdx source) := by
    rw [templateArgument?, templateArgument?, ← hplace]
    exact h.getElem?_succ (by omega)
  rw [reads, reads, fits_eraseIdx hrole (Nat.lt_of_le_of_lt hlt hlength) h.getElem?_target,
    hadmits, Bool.true_and, eraseIdx_moveItem h.source_lt, hasConstantTemplate,
    hasConstantTemplate, htemplate]

/-- Roles read the moved arguments exactly in one of the two ways. -/
theorem reads_iff (h : Misplaced args source target exc) (hroles : WellPlaced roles) :
    reads constant (moveItem args source target) roles = true ↔
      ∃ index, ReadsMoved constant args source target roles index := by
  rw [exists_readsMoved_iff]
  rcases Nat.lt_trichotomy (roles.idxOf .template) target with hlt | heq | hgt
  · rw [h.reads_of_lt hroles hlt]
    simp [hlt, Nat.lt_asymm hlt]
  · rw [h.reads_of_eq hroles heq]
    simp [heq]
  · rw [h.reads_of_gt hroles hgt]
    simp [hgt, Nat.lt_asymm hgt]

/-- The template of such a reading. -/
theorem getElem?_of_readsMoved (h : Misplaced args source target exc)
    (hmoved : ReadsMoved constant args source target roles index) :
    (moveItem args source target)[roles.idxOf .template]? = (args.eraseIdx source)[index]? := by
  cases hmoved with
  | before hlt _ => rw [h.getElem?_of_lt hlt, h.getElem?_eraseIdx (Nat.le_of_lt hlt)]
  | behind hplace hle _ => rw [hplace, h.getElem?_succ hle]

end Misplaced

/-! ### All candidates of a call -/

/-- After a move to the left a call is read through some roles, and these have the argument that was
at the target for their template. The roles are those without the receiver, unless the call passes
it. -/
structure CallSite.Recovers (call : CallSite) (shape : Shape) (constant : Bool)
    (source target : Nat) (roles : List Role) : Prop where
  /-- The roles are the first candidate that reads the moved call. -/
  first : ∃ front back, call.candidates shape = front ++ roles :: back ∧
    ∀ earlier ∈ front, ¬ ∃ index, ReadsMoved constant call.arguments source target earlier index
  /-- They have the argument that was at the target for their template. -/
  template : ∃ index, ReadsMoved constant call.arguments source target roles index ∧
    (call.arguments.eraseIdx source)[index]? = call.arguments[target]?
  /-- A call is read strictly only if no candidate reads it with a constant template. -/
  strict : constant = false → ∀ other ∈ call.candidates shape,
    ¬ ∃ index, ReadsMoved true call.arguments source target other index

/-- The roles are a candidate. -/
theorem CallSite.Recovers.mem_candidates {call : CallSite} {shape : Shape} {constant : Bool}
    {source target : Nat} {roles : List Role}
    (h : call.Recovers shape constant source target roles) : roles ∈ call.candidates shape := by
  obtain ⟨front, back, hsplit, _⟩ := h.first
  exact hsplit ▸ List.mem_append_right _ List.mem_cons_self

/-- Where no other argument equals the one at the target, only roles with their template one place
behind the target recover it. -/
theorem CallSite.Recovers.idxOf_template {call : CallSite} {shape : Shape} {constant : Bool}
    {source target : Nat} {roles : List Role}
    (h : call.Recovers shape constant source target roles) (hlt : target < source)
    (honly : ∀ index, call.arguments[index]? = call.arguments[target]? → index = target) :
    roles.idxOf .template = target + 1 := by
  obtain ⟨index, hmoved, hsame⟩ := h.template
  have hindex : index = target := by
    rw [List.getElem?_eraseIdx] at hsame
    split at hsame
    · exact honly index hsame
    · have hplace := honly (index + 1) hsame
      omega
  cases hmoved with
  | before hbefore _ => omega
  | behind hplace _ _ => rw [hplace, hindex]

section Search

variable {call : CallSite} {shape : Shape} {constant : Bool} {source target : Nat} {exc : Argument}
  {roles : List Role}

/-- A search for roles that read the moved call is one for roles that read it in one of the two
ways. -/
theorem CallSite.find?_move (h : Misplaced call.arguments source target exc) :
    (call.candidates shape).find? (reads constant (call.move source target).arguments) =
      (call.candidates shape).find? fun roles =>
        decide (∃ index, ReadsMoved constant call.arguments source target roles index) := by
  refine List.find?_congr fun roles hmem => ?_
  rw [Bool.eq_iff_iff, decide_eq_true_eq]
  exact h.reads_iff (wellPlaced_of_mem_candidates hmem)

/-- What is found is the first candidate that reads the moved call. -/
theorem CallSite.find?_move_eq_some_iff (h : Misplaced call.arguments source target exc) :
    (call.candidates shape).find? (reads constant (call.move source target).arguments) =
        some roles ↔
      (∃ index, ReadsMoved constant call.arguments source target roles index) ∧
        ∃ front back, call.candidates shape = front ++ roles :: back ∧ ∀ earlier ∈ front,
          ¬ ∃ index, ReadsMoved constant call.arguments source target earlier index := by
  rw [find?_move h, List.find?_eq_some_iff_append]
  simp only [decide_eq_true_eq, Bool.not_eq_true', decide_eq_false_iff_not]

/-- Nothing is found exactly if no candidate reads the moved call. -/
theorem CallSite.find?_move_eq_none_iff (h : Misplaced call.arguments source target exc) :
    (call.candidates shape).find? (reads constant (call.move source target).arguments) = none ↔
      ∀ other ∈ call.candidates shape,
        ¬ ∃ index, ReadsMoved constant call.arguments source target other index := by
  rw [find?_move h, List.find?_eq_none]
  simp only [decide_eq_true_eq]

/-- A call with a moved exception is read with the same template exactly if some roles recover
it. -/
theorem CallSite.exists_choose?_move_iff (h : Misplaced call.arguments source target exc)
    (hconstant : ((call.arguments[target]?).bind Argument.template?).isSome = constant) :
    (∃ roles, (call.move source target).choose? shape = some roles ∧
      (call.move source target).arguments[roles.idxOf .template]? = call.arguments[target]?) ↔
    ∃ roles, call.Recovers shape constant source target roles := by
  have hsame : ∀ {roles : List Role},
      (call.move source target).arguments[roles.idxOf .template]? = call.arguments[target]? →
        hasConstantTemplate roles (call.move source target).arguments = constant := by
    intro roles hget
    rw [← hconstant, hasConstantTemplate, templateArgument?, hget]
  constructor
  · rintro ⟨roles, hchosen, hget⟩
    obtain ⟨hfound, hstrict⟩ := (choose?_eq_some_iff (hsame hget)).mp hchosen
    obtain ⟨⟨index, hmoved⟩, hfirst⟩ := (find?_move_eq_some_iff h).mp hfound
    exact ⟨roles, hfirst, ⟨index, hmoved, (h.getElem?_of_readsMoved hmoved).symm.trans hget⟩,
      fun hfalse => (find?_move_eq_none_iff h).mp (hstrict hfalse)⟩
  · rintro ⟨roles, hrecovers⟩
    obtain ⟨index, hmoved, htemplate⟩ := hrecovers.template
    have hget : (call.move source target).arguments[roles.idxOf .template]? =
        call.arguments[target]? := (h.getElem?_of_readsMoved hmoved).trans htemplate
    have hfound := (find?_move_eq_some_iff h).mpr ⟨⟨index, hmoved⟩, hrecovers.first⟩
    exact ⟨roles, (choose?_eq_some_iff (hsame hget)).mpr
      ⟨hfound, fun hfalse => (find?_move_eq_none_iff h).mpr (hrecovers.strict hfalse)⟩, hget⟩

end Search

/-- A call keeps its template in a move exactly if some roles recover it. -/
theorem CallSite.keepsTemplate_iff {call : CallSite} {table : ShapeTable} {shape : Shape}
    {roles : List Role} {source : Nat} {exc : Argument}
    (hshape : table.lookup call.method = some shape) (hroles : call.choose? shape = some roles)
    (h : Misplaced call.arguments source (roles.idxOf .template) exc) {constant : Bool}
    (hconstant :
      ((call.arguments[roles.idxOf .template]?).bind Argument.template?).isSome = constant) :
    (∃ template, call.template? table = some template ∧
      (call.move source (roles.idxOf .template)).template? table = some template) ↔
    ∃ next, call.Recovers shape constant source (roles.idxOf .template) next := by
  have hmoved : table.lookup (call.move source (roles.idxOf .template)).method = some shape :=
    hshape
  obtain ⟨template, htemplate⟩ := h.exists_target
  rw [← exists_choose?_move_iff h hconstant, template?_eq hshape, template?_eq hmoved, hroles,
    Option.bind_some, htemplate]
  simp only [Option.bind_eq_some_iff, Option.some.injEq, exists_eq_left']

/-- For every shape, the move of a misplaced exception keeps the template of its call exactly if
some roles recover it. They either read the call as it was, with its template in front of the place
where it stood, or take the exception at this place and read the call without it; and no candidate
that is tried before them does. -/
theorem move_keeps_template_iff {call : CallSite} {table : ShapeTable} {shape : Shape}
    (hshape : table.lookup call.method = some shape) {found : List Diagnostic}
    (h : call.analyze table = .ok found) {d : Diagnostic} (hd : d ∈ found)
    (hrule : d.rule = .exceptionNotFirst) {fix : Reorder} (hfix : d.fix = some fix) :
    (∃ template, call.template? table = some template ∧
      (call.move fix.argument.toNat fix.target.toNat).template? table = some template) ↔
    ∃ roles, call.Recovers shape
      ((call.arguments[fix.target.toNat]?).bind Argument.template?).isSome
      fix.argument.toNat fix.target.toNat roles := by
  obtain ⟨own, binding, source, exc, hown, hbinding, rfl, hmisplaced⟩ :=
    CallSite.misplaced_of_mem_analyze h hd hrule
  cases hshape.symm.trans hown
  cases hfix
  obtain ⟨roles, hroles, rfl⟩ := Option.map_eq_some_iff.mp hbinding
  exact CallSite.keepsTemplate_iff hshape hroles hmisplaced rfl

/-- An extension method that is called on its receiver keeps its template: without the receiver its
second overload has a place for an exception in front of the template. An overload with such a place
but without values does not recover the template of a call with a value. -/
theorem move_keeps_template_iff_receiver :
    let template : Argument :=
      { text := "t", constant := some (Text.ofString "\x7bA\x7d \x7bB\x7d") }
    let exc : Argument := { text := "ex", isException := true }
    let value : Argument := { text := "v" }
    let info : Shape := { name := "Info", overloads :=
      [ShapeTable.logging [.receiver], ShapeTable.logging [.receiver, .exception]] }
    let audit : Shape :=
      { name := "Audit", overloads := [ShapeTable.logging [], ⟨[.exception, .template], rfl⟩] }
    let table := ShapeTable.ofShapes [info, audit]
    let kept : CallSite := { method := "Info", arguments := [template, exc, value] }
    let lost : CallSite := { method := "Audit", arguments := [template, exc, value] }
    kept.analyze table = .ok [misplacedException exc 1 0] ∧
      (∃ same, kept.template? table = some same ∧
        (kept.move 1 0).template? table = some same) ∧
      lost.analyze table = .ok [misplacedException exc 1 0] ∧
      ¬ ∃ same, lost.template? table = some same ∧
        (lost.move 1 0).template? table = some same := by
  intro template exc value info audit table kept lost
  have hkept : kept.analyze table = .ok [misplacedException exc 1 0] := by decide +kernel
  have hlost : lost.analyze table = .ok [misplacedException exc 1 0] := by decide +kernel
  have hinfo : table.lookup kept.method = some info := rfl
  have haudit : table.lookup lost.method = some audit := rfl
  have hrefused : ∀ roles ∈ lost.candidates audit,
      ¬ ∃ index, ReadsMoved true lost.arguments 1 0 roles index := by decide
  refine ⟨hkept, (move_keeps_template_iff hinfo hkept List.mem_cons_self rfl rfl).mpr
    ⟨[.exception, .template, .values], ?_, ?_, ?_⟩, hlost, fun hsame => ?_⟩
  · exact ⟨[[.template, .values]], [], rfl, by decide⟩
  · exact ⟨0, .behind rfl (Nat.le_refl 0) (by decide), rfl⟩
  · exact fun hfalse => absurd hfalse (by decide)
  · obtain ⟨roles, hrecovers⟩ :=
      (move_keeps_template_iff haudit hlost List.mem_cons_self rfl rfl).mp hsame
    obtain ⟨index, hmoved, _⟩ := hrecovers.template
    exact hrefused roles hrecovers.mem_candidates ⟨index, hmoved⟩

/-- A second exception behind the template of a call whose place for an exception is taken:
it is moved between the first one and the template, where no overload has a place for it,
and the call has no template any more. -/
theorem move_loses_template :
    let first : Argument := { text := "first", isException := true }
    let template : Argument := { text := "t", constant := some (Text.ofString "\x7bA\x7d") }
    let second : Argument := { text := "second", isException := true }
    let call : CallSite := { method := "Error", arguments := [first, template, second] }
    call.analyze .default = .ok [misplacedException second 2 1] ∧
      call.template? .default = some template ∧ (call.move 2 1).template? .default = none := by
  decide +kernel

end TemplateLint
