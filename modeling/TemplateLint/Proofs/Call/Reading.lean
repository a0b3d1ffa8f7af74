import TemplateLint.Proofs.Call.Misplaced
import TemplateLint.Proofs.Method.Placement

/-!
# Reading calls through roles

Arguments fill a list of roles if there are as many as it asks for and each role accepts the
argument in its place. A call is read through the first candidate that its arguments fill with a
constant template, and through the first one that they fill strictly if there is no such
candidate. Main statements: both as conditions on the single arguments and candidates; and the
candidates of a call are well placed.
-/

namespace TemplateLint

section Filling

variable {lenient : Bool} {role : Role} {roles : List Role} {arg : Argument}
  {args others : List Argument}

/-- The number of arguments is right for a list of roles, the last of which may be for all
remaining values. -/
def SuitsCount (roles : List Role) (count : Nat) : Prop :=
  if roles.getLast? = some .values then roles.length ≤ count + 1 else count = roles.length

/-- Roles accept the arguments in their places. -/
def AcceptsAll (lenient : Bool) (roles : List Role) (args : List Argument) : Prop :=
  ∀ (index : Nat) (role : Role) (arg : Argument), roles[index]? = some role →
    args[index]? = some arg → role.accepts lenient arg = true

/-- Pairs of roles and arguments are accepted if the roles accept the arguments. -/
theorem all_zip_accepts_iff : ((roles.zip args).all fun pair => pair.1.accepts lenient pair.2) =
    true ↔ AcceptsAll lenient roles args := by
  rw [List.all_eq_true]
  constructor
  · intro h index role arg hrole harg
    exact h (role, arg) (List.mem_of_getElem? (List.getElem?_zip_eq_some.mpr ⟨hrole, harg⟩))
  · intro h pair hpair
    obtain ⟨index, hindex⟩ := List.mem_iff_getElem?.mp hpair
    obtain ⟨hrole, harg⟩ := List.getElem?_zip_eq_some.mp hindex
    exact h index pair.1 pair.2 hrole harg

/-- The role for all remaining values accepts every argument. -/
theorem acceptsAll_concat_values :
    AcceptsAll lenient (roles ++ [.values]) args ↔ AcceptsAll lenient roles args := by
  constructor
  · intro h index role arg hrole harg
    have hlt := (List.getElem?_eq_some_iff.mp hrole).1
    exact h index role arg ((List.getElem?_append_left hlt).trans hrole) harg
  · intro h index role arg hrole harg
    by_cases hlt : index < roles.length
    · rw [List.getElem?_append_left hlt] at hrole
      exact h index role arg hrole harg
    · rw [List.getElem?_append_right (by omega)] at hrole
      rw [List.mem_singleton.mp (List.mem_of_getElem? hrole)]
      rfl

/-- Arguments fill roles exactly if their number is right and each role accepts the argument in its
place. -/
theorem fits_eq_true_iff : fits lenient roles args = true ↔
    SuitsCount roles args.length ∧ AcceptsAll lenient roles args := by
  unfold fits SuitsCount
  dsimp only
  by_cases hlast : roles.getLast? = some .values
  · obtain ⟨fixed, rfl⟩ := List.getLast?_eq_some_iff.mp hlast
    rw [decide_eq_true hlast, if_pos rfl, if_pos rfl, if_pos hlast, List.dropLast_concat,
      Bool.and_eq_true, decide_eq_true_eq, all_zip_accepts_iff, acceptsAll_concat_values,
      List.length_append, List.length_singleton, Nat.add_le_add_iff_right]
  · rw [decide_eq_false hlast, if_neg (by decide), if_neg (by decide), if_neg hlast,
      Bool.and_eq_true, decide_eq_true_eq, all_zip_accepts_iff]

/-- Where arguments fill a list of roles, each role has an argument of its own and accepts it, but
for the role that takes the remaining values. -/
theorem exists_accepted_of_fits (h : fits lenient roles args = true) {index : Nat}
    (hrole : roles[index]? = some role) (hne : role ≠ .values) :
    ∃ arg, args[index]? = some arg ∧ role.accepts lenient arg = true := by
  obtain ⟨hcount, haccepts⟩ := fits_eq_true_iff.mp h
  have hindex := (List.getElem?_eq_some_iff.mp hrole).1
  have hlt : index < args.length := by
    unfold SuitsCount at hcount
    split at hcount
    · next hlast =>
      obtain ⟨fixed, rfl⟩ := List.getLast?_eq_some_iff.mp hlast
      rw [List.length_append, List.length_singleton] at hcount hindex
      refine Nat.lt_of_le_of_ne (by omega) fun heq => hne ?_
      rw [List.getElem?_append_right (by omega)] at hrole
      exact List.mem_singleton.mp (List.mem_of_getElem? hrole)
    · omega
  have harg := List.getElem?_eq_getElem hlt
  exact ⟨_, harg, haccepts index role _ hrole harg⟩

/-- What is accepted strictly is accepted. -/
theorem Role.accepts_of_strict (h : role.accepts false arg = true) :
    role.accepts true arg = true := by
  cases role with
  | exception => simp_all [Role.accepts]
  | _ => exact h

/-- Arguments that fill roles strictly fill them. -/
theorem fits_of_strict (h : fits false roles args = true) : fits true roles args = true := by
  rw [fits_eq_true_iff] at h ⊢
  exact ⟨h.1, fun index role arg hrole harg =>
    Role.accepts_of_strict (h.2 index role arg hrole harg)⟩

/-- The first argument fills the first role and the others fill the others. -/
theorem fits_cons (hne : roles ≠ []) (role : Role) (arg : Argument) (args : List Argument) :
    fits lenient (role :: roles) (arg :: args) =
      (role.accepts lenient arg && fits lenient roles args) := by
  obtain ⟨first, rest, rfl⟩ := List.exists_cons_of_ne_nil hne
  unfold fits
  rw [List.getLast?_cons_cons, List.dropLast_cons_cons]
  dsimp only
  split <;>
    simp only [List.length_cons, Nat.add_le_add_iff_right, Nat.add_right_cancel_iff,
      List.zip_cons_cons, List.all_cons] <;>
    ac_rfl

/-- Without arguments nothing fills the first of several roles. -/
theorem fits_nil (hne : roles ≠ []) (role : Role) : fits lenient (role :: roles) [] = false := by
  obtain ⟨first, rest, rfl⟩ := List.exists_cons_of_ne_nil hne
  unfold fits
  rw [List.getLast?_cons_cons, List.dropLast_cons_cons]
  dsimp only
  split <;> simp

/-- All remaining values are filled by any arguments. -/
theorem fits_values (args : List Argument) : fits lenient [.values] args = true := by
  simp [fits]

/-- One argument fills its role and the others fill the other roles. -/
theorem fits_eraseIdx {index : Nat} (hrole : roles[index]? = some role)
    (hlast : index + 1 < roles.length) (harg : args[index]? = some arg) :
    fits lenient roles args =
      (role.accepts lenient arg && fits lenient (roles.eraseIdx index) (args.eraseIdx index)) := by
  induction index generalizing roles args with
  | zero =>
    rw [← List.head?_eq_getElem?] at hrole harg
    obtain ⟨rest, rfl⟩ := List.head?_eq_some_iff.mp hrole
    obtain ⟨more, rfl⟩ := List.head?_eq_some_iff.mp harg
    exact fits_cons (List.ne_nil_of_length_pos (Nat.lt_of_succ_lt_succ hlast)) role arg more
  | succ index ih =>
    cases roles with
    | nil => cases hrole
    | cons first rest =>
      cases args with
      | nil => cases harg
      | cons item more =>
        rw [List.getElem?_cons_succ] at hrole harg
        have hmore : index + 1 < rest.length := Nat.lt_of_succ_lt_succ hlast
        have hrest : rest ≠ [] := List.ne_nil_of_length_pos (Nat.zero_lt_of_lt hmore)
        have herased : rest.eraseIdx index ≠ [] := by
          refine List.ne_nil_of_length_pos ?_
          rw [List.length_eraseIdx_of_lt (by omega)]
          omega
        rw [List.eraseIdx_cons_succ, List.eraseIdx_cons_succ, fits_cons hrest, fits_cons herased,
          ih hrole hmore harg, Bool.and_left_comm]

/-- What is behind the template is accepted. -/
theorem WellPlaced.accepts_of_lt (h : WellPlaced roles) {index : Nat}
    (hrole : roles[index]? = some role) (hlt : roles.idxOf .template < index) :
    role.accepts lenient arg = true := by
  cases role with
  | exception => exact absurd (h.lt_template_of_exception hrole) (by omega)
  | template => exact absurd (h.eq_idxOf hrole) (by omega)
  | _ => rfl

/-- Whether arguments fill well placed roles depends on how many there are and on those up to the
template. -/
theorem WellPlaced.fits_congr (h : WellPlaced roles) (hlength : args.length = others.length)
    (hsame : ∀ index, index ≤ roles.idxOf .template → args[index]? = others[index]?) :
    fits lenient roles args = fits lenient roles others := by
  have haccepts : AcceptsAll lenient roles args ↔ AcceptsAll lenient roles others := by
    refine forall₂_congr fun index role => ?_
    by_cases hle : index ≤ roles.idxOf .template
    · rw [hsame index hle]
    · refine forall₂_congr fun arg hrole => ?_
      simp only [h.accepts_of_lt hrole (Nat.lt_of_not_le hle), implies_true]
  rw [Bool.eq_iff_iff, fits_eq_true_iff, fits_eq_true_iff, hlength, haccepts]

end Filling

/-- Whether a list of roles reads the arguments of a call: with a constant template, where an
argument of unknown type may be an exception, or strictly. -/
def reads (constant : Bool) (args : List Argument) (roles : List Role) : Bool :=
  fits constant roles args && (!constant || hasConstantTemplate roles args)

namespace CallSite

variable {call : CallSite} {shape : Shape} {roles : List Role}

/-- The candidates of a call are well placed. -/
theorem wellPlaced_of_mem_candidates (h : roles ∈ call.candidates shape) : WellPlaced roles := by
  obtain ⟨overload, _, hroles⟩ := List.mem_filterMap.mp h
  unfold rolesFor at hroles
  split at hroles
  · next hreceiver =>
    cases hroles
    split
    · exact overload.wellPlaced
    · obtain ⟨others, hothers⟩ := List.head?_eq_some_iff.mp hreceiver
      rw [hothers]
      exact (hothers ▸ overload.wellPlaced : WellPlaced (.receiver :: others)).tail
  · split at hroles
    · cases hroles
    · cases hroles
      exact overload.wellPlaced

/-- A call is read with a constant template if that is possible, and strictly otherwise. -/
theorem choose?_eq (call : CallSite) (shape : Shape) :
    call.choose? shape = ((call.candidates shape).find? (reads true call.arguments)).or
      ((call.candidates shape).find? (reads false call.arguments)) := by
  have hstrict : reads false call.arguments = fun roles => fits false roles call.arguments := by
    funext roles
    exact Bool.and_true _
  rw [hstrict]
  rfl

/-- A call is read through the first candidate that reads it with a constant template if its
template is one, and through the first one that reads it strictly if not; and then no candidate
reads it with a constant template. -/
theorem choose?_eq_some_iff {constant : Bool}
    (hconstant : hasConstantTemplate roles call.arguments = constant) :
    call.choose? shape = some roles ↔
      (call.candidates shape).find? (reads constant call.arguments) = some roles ∧
        (constant = false → (call.candidates shape).find? (reads true call.arguments) = none) := by
  rw [choose?_eq, Option.or_eq_some_iff]
  cases constant with
  | true =>
    refine ⟨fun h => ⟨?_, nofun⟩, fun h => .inl h.1⟩
    rcases h with hfound | ⟨hnone, hfound⟩
    · exact hfound
    · -- roles that the arguments fill strictly are filled with the constant template as well
      have hstrict := List.find?_some hfound
      rw [reads, Bool.not_false, Bool.true_or, Bool.and_true] at hstrict
      have hreads : reads true call.arguments roles = true := by
        rw [reads, fits_of_strict hstrict, hconstant]
        rfl
      exact absurd hreads (List.find?_eq_none.mp hnone _ (List.mem_of_find?_eq_some hfound))
  | false =>
    refine ⟨fun h => ?_, fun h => .inr ⟨h.2 rfl, h.1⟩⟩
    rcases h with hfound | ⟨hnone, hfound⟩
    · have hreads := List.find?_some hfound
      rw [reads, hconstant] at hreads
      simp at hreads
    · exact ⟨hfound, fun _ => hnone⟩

/-- A call whose method has a shape is read through the overloads of this shape. -/
theorem template?_eq {table : ShapeTable} (hshape : table.lookup call.method = some shape) :
    call.template? table = (call.choose? shape).bind fun roles =>
      call.arguments[roles.idxOf .template]? := by
  rw [template?, hshape, Option.bind_some, match?]
  cases call.choose? shape <;> rfl

end CallSite

end TemplateLint
