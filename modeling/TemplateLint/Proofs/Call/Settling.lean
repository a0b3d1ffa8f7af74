import Mathlib.Algebra.Ring.Nat
import TemplateLint.Proofs.Call.Clean
import TemplateLint.Proofs.Template.Overlong

/-!
# Repeated moves

A call whose analysis reports misplaced exceptions is repaired by moving the first of them to
the place of the template and analysing the call again. After a move the call may be read
through another overload. Main statement: every move makes the sum of the positions of the
exceptions smaller, so the moves come to an end, in a call without misplaced exceptions or in
one whose template holds a number that is too long to be converted.
-/

namespace TemplateLint

open Source

/-- The call after the move that its first misplaced exception asks for. There is no such move
if the analysis reports no such exception or gives no answer. -/
def CallSite.repair? (call : CallSite) (table : ShapeTable) : Option CallSite :=
  match call.analyze table with
  | .error _ => none
  | .ok found => (firstFix? found).map fun fix => call.move fix.argument.toNat fix.target.toNat

/-- Sum of the positions of the exceptions among some arguments. -/
def exceptionSum (args : List Argument) : Nat :=
  (args.findIdxs Argument.isException).sum

/-- An exception changes places with arguments in front of it that are none. -/
structure PassesPlain (shift : Shift Argument) : Prop where
  /-- What is moved is an exception. -/
  isException : shift.item.isException = true
  /-- It passes something. -/
  middle_ne_nil : shift.middle ≠ []
  /-- What it passes is no exception. -/
  middle_plain : ∀ arg ∈ shift.middle, arg.isException = false

/-- Diagnostics that are about no exception ask for no move. -/
theorem firstFix?_append {own rest : List Diagnostic}
    (h : ∀ d ∈ own, d.rule ≠ .exceptionNotFirst) : firstFix? (own ++ rest) = firstFix? rest := by
  have hnone : firstFix? own = none :=
    List.findSome?_eq_none_iff.mpr fun d hd => if_neg (h d hd)
  rw [firstFix?, List.findSome?_append, ← firstFix?, ← firstFix?, hnone, Option.none_or]

/-- The first move is that of the first value that is an exception. -/
theorem firstFix?_exceptionDiagnostics (values : List Argument) (indices : List Int)
    (target : Int) :
    firstFix? (exceptionDiagnostics values indices target) =
      ((indices.zip values).find? fun pair => pair.2.isException).map fun pair =>
        ⟨pair.1, target⟩ := by
  unfold exceptionDiagnostics
  generalize indices.zip values = pairs
  induction pairs with
  | nil => rfl
  | cons pair pairs ih =>
    cases hpair : pair.2.isException with
    | false =>
      rw [List.filter_cons_of_neg (by simp [hpair]), List.find?_cons_of_neg (by simp [hpair])]
      exact ih
    | true =>
      rw [List.filter_cons_of_pos (by simp [hpair]), List.find?_cons_of_pos (by simp [hpair])]
      rfl

/-- The values up to one of them, and its index in the call. -/
theorem CallSite.values_split {call : CallSite} {roles : List Role}
    {front back : List (Int × Argument)} {pair : Int × Argument}
    (h : ((Binding.ofRoles roles call.arguments).valueIndices.map Int.ofNat).zip
      (call.values (.ofRoles roles call.arguments)) = front ++ pair :: back) :
    call.arguments.drop (roles.idxOf .template + 1) =
        front.map Prod.snd ++ pair.2 :: back.map Prod.snd ∧
      pair.1 = ((roles.idxOf .template + 1 + front.length : Nat) : Int) := by
  rw [values_ofRoles] at h
  have hlength : ((Binding.ofRoles roles call.arguments).valueIndices.map Int.ofNat).length =
      (call.arguments.drop (roles.idxOf .template + 1)).length := by simp [Binding.ofRoles]
  have hvalues := congrArg (List.map Prod.snd) h
  have hindices := congrArg (List.map Prod.fst) h
  rw [List.map_snd_zip (Nat.le_of_eq hlength.symm), List.map_append, List.map_cons] at hvalues
  rw [List.map_fst_zip (Nat.le_of_eq hlength), List.map_append, List.map_cons] at hindices
  refine ⟨hvalues, ?_⟩
  have hindex : (front.map Prod.fst ++ pair.1 :: back.map Prod.fst)[front.length]? =
      some pair.1 := by simp
  rw [← hindices, List.getElem?_map] at hindex
  obtain ⟨index, hat, heq⟩ := Option.map_eq_some_iff.mp hindex
  rw [Binding.ofRoles, List.getElem?_drop] at hat
  obtain ⟨_, hrange⟩ := List.getElem?_eq_some_iff.mp hat
  rw [List.getElem_range] at hrange
  rw [← heq, ← hrange]
  rfl

/-- What a repair does: an exception changes places with the template and the values in front of
it, none of which is an exception. -/
theorem CallSite.exists_shift_of_repair? {call next : CallSite} {table : ShapeTable}
    (h : call.repair? table = some next) :
    ∃ shift : Shift Argument, call.arguments = shift.before ∧
      next = { call with arguments := shift.after } ∧ PassesPlain shift := by
  unfold repair? at h
  split at h
  · cases h
  · next found hfound =>
    obtain ⟨fix, hfix, rfl⟩ := Option.map_eq_some_iff.mp h
    obtain ⟨d, hd, _⟩ := List.exists_of_findSome?_eq_some hfix
    obtain ⟨shape, binding, template, _, hbinding, htemplate, hparts⟩ :=
      exists_of_mem_analyze hfound hd
    obtain ⟨other, hother, hplain⟩ := exists_template_of_match? hbinding
    cases htemplate.symm.trans hother
    obtain ⟨own, rfl, hown⟩ := exists_append_of_analyzeParts hparts
    rw [firstFix?_append hown, firstFix?_exceptionDiagnostics] at hfix
    obtain ⟨pair, hpair, rfl⟩ := Option.map_eq_some_iff.mp hfix
    obtain ⟨hexc, front, back, hsplit, hfront⟩ := List.find?_eq_some_iff_append.mp hpair
    obtain ⟨roles, _, rfl⟩ := Option.map_eq_some_iff.mp hbinding
    obtain ⟨hvalues, hindex⟩ := values_split hsplit
    obtain ⟨shift, hbefore, hmiddle, hitem, hsource, htarget⟩ :=
      exists_shift_of_drop htemplate hvalues
    refine ⟨shift, hbefore.symm, ?_, hitem ▸ hexc, by simp [hmiddle], ?_⟩
    · rw [← moveItem_shift, hbefore, hsource, htarget, hindex, List.length_map]
      rfl
    · rw [hmiddle]
      intro arg harg
      rcases List.mem_cons.mp harg with rfl | hvalue
      · exact hplain
      · obtain ⟨other, hother, rfl⟩ := List.mem_map.mp hvalue
        exact (Bool.not_eq_true' _).mp (hfront other hother)

/-- When an exception passes arguments that are none, the sum of the positions becomes smaller by
their number. -/
theorem PassesPlain.exceptionSum_add {shift : Shift Argument} (h : PassesPlain shift) :
    exceptionSum shift.after + shift.middle.length = exceptionSum shift.before := by
  have hmiddle : ∀ start, shift.middle.findIdxs Argument.isException start = [] := fun start =>
    List.findIdxs_eq_nil_iff.mpr h.middle_plain
  have hstart : shift.left.length + 1 + shift.middle.length =
      shift.left.length + shift.middle.length + 1 := by omega
  simp only [exceptionSum, Shift.after, Shift.before, List.findIdxs_append, List.findIdxs_cons,
    hmiddle, h.isException, if_true, List.append_nil, List.nil_append, List.sum_append,
    List.sum_cons, Nat.zero_add, List.length_append, hstart]
  omega

/-- Every repair makes the sum of the positions of the exceptions smaller. -/
theorem CallSite.exceptionSum_lt_of_repair? {call next : CallSite} {table : ShapeTable}
    (h : call.repair? table = some next) :
    exceptionSum next.arguments < exceptionSum call.arguments := by
  obtain ⟨shift, hbefore, rfl, hshift⟩ := exists_shift_of_repair? h
  have hsum := hshift.exceptionSum_add
  have hpos := List.length_pos_iff.mpr hshift.middle_ne_nil
  rw [hbefore]
  dsimp only
  omega

/-- A repair moves arguments and changes none. -/
theorem CallSite.perm_of_repair? {call next : CallSite} {table : ShapeTable}
    (h : call.repair? table = some next) : next.arguments.Perm call.arguments := by
  obtain ⟨shift, hbefore, rfl, _⟩ := exists_shift_of_repair? h
  rw [hbefore]
  exact shift.after_perm

/-- Repairs one after the other: the calls that they lead to, and the last one, which is not
repaired any more. -/
inductive RepairRun (table : ShapeTable) : CallSite → List CallSite → CallSite → Prop
  /-- A call that is not repaired is the last one. -/
  | stop {call : CallSite} (h : call.repair? table = none) : RepairRun table call [] call
  /-- A repair, and what follows it. -/
  | step {call next last : CallSite} {calls : List CallSite} (h : call.repair? table = some next)
    (hrest : RepairRun table next calls last) : RepairRun table call (next :: calls) last

namespace RepairRun

variable {table : ShapeTable} {call last : CallSite} {calls : List CallSite}

/-- The arguments of the last call are those of the first one, in another order. -/
theorem perm (h : RepairRun table call calls last) : last.arguments.Perm call.arguments := by
  induction h with
  | stop _ => exact .refl _
  | step hstep _ ih => exact ih.trans (CallSite.perm_of_repair? hstep)

/-- There are at most as many repairs as the sum of the positions says. -/
theorem length_le (h : RepairRun table call calls last) :
    calls.length ≤ exceptionSum call.arguments := by
  induction h with
  | stop _ => exact Nat.zero_le _
  | step hstep _ ih =>
    have hlt := CallSite.exceptionSum_lt_of_repair? hstep
    rw [List.length_cons]
    omega

/-- The last call is not repaired. -/
theorem repair?_last (h : RepairRun table call calls last) : last.repair? table = none := by
  induction h with
  | stop hstop => exact hstop
  | step _ _ ih => exact ih

end RepairRun

/-- Repairs come to an end. -/
theorem exists_repairRun (table : ShapeTable) (call : CallSite) :
    ∃ calls last, RepairRun table call calls last := by
  induction hsum : exceptionSum call.arguments using Nat.strongRecOn generalizing call with
  | _ sum ih =>
    cases hstep : call.repair? table with
    | none => exact ⟨[], call, .stop hstep⟩
    | some next =>
      have hlt := CallSite.exceptionSum_lt_of_repair? hstep
      obtain ⟨calls, last, hrest⟩ := ih _ (hsum ▸ hlt) next rfl
      exact ⟨next :: calls, last, .step hstep hrest⟩

/-- A template and its values are not analysed exactly when the template is a constant that
reaches an overlong number. -/
theorem analyzeParts_eq_error_iff {template : Argument} {values : List Argument}
    {shape : Option Shape} {indices : List Int} {target : Int} {numeral : Text.Oversized} :
    analyzeParts template values shape indices target = .error numeral ↔
      ∃ value, template.Denotes value ∧ Template.parse value = .error (.oversized numeral) := by
  simp only [← Argument.template?_eq_some_iff]
  unfold analyzeParts
  dsimp only
  cases template.template? with
  | none =>
    constructor
    · nofun
    · rintro ⟨_, h, _⟩
      cases h
  | some value =>
    simp only [Option.some.injEq, exists_eq_left']
    unfold templateDiagnostics
    constructor
    · intro h
      rcases Outcome.bind_eq_error h with htemplate | ⟨_, _, h⟩
      · split at htemplate
        · next hparse =>
          cases htemplate
          exact hparse
        · cases htemplate
        · cases htemplate
      · cases h
    · intro hparse
      rw [hparse]
      rfl

/-- A call is not analysed exactly when its template is a constant that reaches an overlong
number. -/
theorem CallSite.analyze_eq_error_iff {call : CallSite} {table : ShapeTable}
    {numeral : Text.Oversized} :
    call.analyze table = .error numeral ↔
      ∃ template value, call.template? table = some template ∧ template.Denotes value ∧
        Template.parse value = .error (.oversized numeral) := by
  unfold analyze template?
  cases table.lookup call.method with
  | none => simp
  | some shape =>
    dsimp only [Option.bind_some]
    cases call.match? shape with
    | none => simp
    | some binding =>
      dsimp only [Option.bind_some]
      cases call.arguments[binding.templateIndex]? with
      | none => simp
      | some template =>
        simp only [analyzeParts_eq_error_iff, Option.some.injEq, exists_and_left, exists_eq_left']

/-- A call is not repaired exactly when its analysis reports no misplaced exception or gives no
answer: every misplaced exception asks for a move. -/
theorem CallSite.repair?_eq_none_iff {call : CallSite} {table : ShapeTable} :
    call.repair? table = none ↔
      (∃ found, call.analyze table = .ok found ∧ ∀ d ∈ found, d.rule ≠ .exceptionNotFirst) ∨
        ∃ numeral, call.analyze table = .error numeral := by
  unfold repair?
  cases hanalyze : call.analyze table with
  | error numeral => simp
  | ok found =>
    simp only [Option.map_eq_none_iff, Except.ok.injEq, exists_eq_left', reduceCtorEq, exists_false,
      or_false]
    rw [firstFix?, List.findSome?_eq_none_iff]
    constructor
    · intro h d hd hrule
      have hfix := h d hd
      obtain ⟨_, _, _, _, _, _, rfl, _⟩ := misplaced_of_mem_analyze hanalyze hd hrule
      cases hfix
    · exact fun h d hd => if_neg (h d hd)

/-- Every repair makes the sum of the positions of the exceptions smaller. So repairs come to an
end, after at most as many of them as this sum says, in a call with the same arguments that has
no misplaced exception, or that is not analysed because of an overlong number in its
template. -/
theorem repeated_moves_end (table : ShapeTable) (call : CallSite) :
    (∀ current next : CallSite, current.repair? table = some next →
        exceptionSum next.arguments < exceptionSum current.arguments) ∧
      ∃ calls last, RepairRun table call calls last ∧
        calls.length ≤ exceptionSum call.arguments ∧ last.arguments.Perm call.arguments ∧
        ((∃ found, last.analyze table = .ok found ∧ ∀ d ∈ found, d.rule ≠ .exceptionNotFirst) ∨
          ∃ template value numeral, last.template? table = some template ∧
            template.Denotes value ∧ Template.parse value = .error (.oversized numeral)) := by
  refine ⟨fun _ _ => CallSite.exceptionSum_lt_of_repair?, ?_⟩
  obtain ⟨calls, last, hrun⟩ := exists_repairRun table call
  refine ⟨calls, last, hrun, hrun.length_le, hrun.perm, ?_⟩
  refine (CallSite.repair?_eq_none_iff.mp hrun.repair?_last).imp_right ?_
  rintro ⟨numeral, herror⟩
  obtain ⟨template, value, h⟩ := CallSite.analyze_eq_error_iff.mp herror
  exact ⟨template, value, numeral, h⟩

/-- An exception behind a template whose alignment has one digit more than can be converted: the
call has an overload, and no repair is found for it. -/
theorem repair_breaks_off :
    let digits : Text := List.replicate 4301 (CodePoint.ofChar '1')
    let template : Argument :=
      { text := "t", constant := some (Template.braced (Text.ofString "A," ++ digits)) }
    let exc : Argument := { text := "ex", isException := true }
    let call : CallSite := { method := "Error", arguments := [template, exc] }
    (∃ shape binding, ShapeTable.default.lookup call.method = some shape ∧
        call.match? shape = some binding ∧ exc ∈ call.values binding) ∧
      ∀ calls last, RepairRun .default call calls last →
        last = call ∧ last.analyze .default = .error ⟨4301⟩ := by
  intro digits template exc call
  have hlength : digits.length = 4301 := List.length_replicate
  have hdigits : ∀ c ∈ digits, c.isAsciiDigit := by
    intro c hc
    rw [List.eq_of_mem_replicate hc]
    decide
  have hparse : Template.parse (Template.braced (Text.ofString "A," ++ digits)) =
      .error (.oversized ⟨digits.length⟩) := by
    have hlong : Text.digitLimit < digits.length := by
      rw [hlength]
      decide
    have hword : ∀ c ∈ Text.ofString "A", c.isAsciiWord := by decide
    exact Template.parse_overlong_alignment (List.cons_ne_nil _ _) hword hdigits hlong
  rw [hlength] at hparse
  have herror : call.analyze .default = .error ⟨4301⟩ :=
    CallSite.analyze_eq_error_iff.mpr ⟨template, _, by rfl, .constant rfl, hparse⟩
  have hstop : call.repair? .default = none :=
    CallSite.repair?_eq_none_iff.mpr (.inr ⟨_, herror⟩)
  refine ⟨⟨_, _, rfl, rfl, List.mem_singleton.mpr rfl⟩, fun calls last hrun => ?_⟩
  cases hrun with
  | stop _ => exact ⟨rfl, herror⟩
  | step hstep _ =>
    rw [hstop] at hstep
    cases hstep

end TemplateLint
