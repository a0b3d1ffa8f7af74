import Mathlib.Computability.RegularExpressions
import TemplateLint.Declare.Marked
import TemplateLint.Proofs.Method.Placement

/-!
# The grammar of overloads

The check of an overload compares the position of every role with that of the template. What
passes it is a regular language: perhaps a receiver, exceptions and other parameters in any
order, the template, values, and perhaps a parameter for all remaining values. Main statement:
the check accepts exactly this language, and the roles of a marked method belong to it unless a
parameter for remaining values stands behind the template and is not the last one.
-/

namespace TemplateLint

namespace Overload

open RegularExpression

/-- Exceptions and other parameters in any order. -/
def lead : RegularExpression Role :=
  (char Role.exception + char Role.other).star

/-- What stands before the template. -/
def leading : RegularExpression Role :=
  (1 + char Role.receiver) * lead

/-- What stands behind the template. -/
def trailing : RegularExpression Role :=
  (char Role.value).star * (1 + char Role.values)

/-- The grammar of overloads. -/
def grammar : RegularExpression Role :=
  leading * char Role.template * trailing

section Language

variable {first : Role} {rest roles front back : List Role}

/-- The rest of a word is matched by the derivative of the expression. -/
theorem cons_mem_matches'_iff {r : RegularExpression Role} :
    first :: rest ∈ r.matches' ↔ rest ∈ (r.deriv first).matches' := by
  rw [← rmatch_iff_matches', ← rmatch_iff_matches', rmatch]

/-- The parameters between the receiver and the template, one by one. -/
theorem mem_lead_iff :
    roles ∈ lead.matches' ↔ ∀ role ∈ roles, role = .exception ∨ role = .other := by
  induction roles with
  | nil =>
    rw [← rmatch_iff_matches']
    exact iff_of_true rfl (List.forall_mem_nil _)
  | cons first rest ih =>
    rw [List.forall_mem_cons, ← ih, cons_mem_matches'_iff]
    cases first <;> simp [lead, RegularExpression.deriv]

/-- Only in front of the template may a receiver come first. -/
theorem cons_mem_leading_iff :
    first :: rest ∈ leading.matches' ↔
      (first = .receiver ∨ first = .exception ∨ first = .other) ∧ rest ∈ lead.matches' := by
  rw [cons_mem_matches'_iff]
  cases first <;> simp [leading, lead, RegularExpression.deriv, matchEpsilon]

/-- Behind the template a value is followed by more of them, and the remaining values by
nothing. -/
theorem cons_mem_trailing_iff :
    first :: rest ∈ trailing.matches' ↔
      first = .value ∧ rest ∈ trailing.matches' ∨ first = .values ∧ rest = [] := by
  rw [cons_mem_matches'_iff]
  cases first <;> simp [trailing, RegularExpression.deriv, matchEpsilon]

/-- Nothing has to stand before the template. -/
theorem nil_mem_leading : [] ∈ leading.matches' :=
  (rmatch_iff_matches' _ _).mp rfl

/-- Nothing has to stand behind the template. -/
theorem nil_mem_trailing : [] ∈ trailing.matches' :=
  (rmatch_iff_matches' _ _).mp rfl

/-- No template stands before the template. -/
theorem template_not_mem_of_leading (h : front ∈ leading.matches') : .template ∉ front := by
  cases front with
  | nil => exact List.not_mem_nil
  | cons first rest =>
    obtain ⟨hfirst, hrest⟩ := cons_mem_leading_iff.mp h
    intro hmem
    rcases List.mem_cons.mp hmem with rfl | hmem
    · simp at hfirst
    · simpa using mem_lead_iff.mp hrest .template hmem

/-- A word of the grammar is cut at its template. -/
theorem mem_grammar_iff :
    roles ∈ grammar.matches' ↔ ∃ front back, roles = front ++ .template :: back ∧
      front ∈ leading.matches' ∧ back ∈ trailing.matches' := by
  have htemplate : (char Role.template).matches' = {[Role.template]} := matches'_char _
  rw [grammar, matches'_mul, matches'_mul, htemplate]
  simp only [Language.mem_mul]
  constructor
  · rintro ⟨_, ⟨front, hfront, _, rfl, rfl⟩, back, hback, rfl⟩
    exact ⟨front, back, List.append_assoc .., hfront, hback⟩
  · rintro ⟨front, back, rfl, hfront, hback⟩
    exact ⟨_, ⟨front, hfront, _, rfl, rfl⟩, back, hback, List.append_assoc ..⟩

end Language

section Check

variable {templateAt count position : Nat} {roles front back : List Role}

/-- The roles from a position on pass the check if the first one does and the others do from the
next position on. -/
theorem checkRoles_cons_eq_ok_iff {first : Role} {rest : List Role} :
    checkRoles templateAt count position (first :: rest) = .ok () ↔
      checkRole templateAt count position first = .ok () ∧
        checkRoles templateAt count (position + 1) rest = .ok () := by
  rw [checkRoles]
  split
  · next fault hfault => simp [hfault]
  · next hfirst => simp [hfirst]

/-- Two runs of roles pass the check one after the other. -/
theorem checkRoles_append_eq_ok_iff :
    checkRoles templateAt count position (front ++ back) = .ok () ↔
      checkRoles templateAt count position front = .ok () ∧
        checkRoles templateAt count (position + front.length) back = .ok () := by
  induction front generalizing position with
  | nil => simp [checkRoles]
  | cons first rest ih =>
    rw [List.cons_append, checkRoles_cons_eq_ok_iff, checkRoles_cons_eq_ok_iff, ih, and_assoc,
      List.length_cons, Nat.add_assoc, Nat.add_comm 1]

/-- Behind the first position and before the template, exceptions and other parameters pass. -/
theorem checkRoles_lead_iff (hposition : 0 < position)
    (htemplate : position + roles.length ≤ templateAt) :
    (checkRoles templateAt count position roles = .ok () ∧ .template ∉ roles) ↔
      roles ∈ lead.matches' := by
  rw [mem_lead_iff]
  induction roles generalizing position with
  | nil => simp [checkRoles]
  | cons first rest ih =>
    rw [List.length_cons] at htemplate
    rw [checkRoles_cons_eq_ok_iff, List.forall_mem_cons, ← @ih (position + 1) (by omega) (by omega)]
    have hbefore : position < templateAt := by omega
    have hnot : ¬ templateAt < position := by omega
    have hzero : position ≠ 0 := by omega
    cases first <;> simp [checkRole, hbefore, hnot, hzero]

/-- What passes the check before the template is what the grammar has there. -/
theorem checkRoles_leading_iff :
    (checkRoles front.length count 0 front = .ok () ∧ .template ∉ front) ↔
      front ∈ leading.matches' := by
  cases front with
  | nil => simp [checkRoles, nil_mem_leading]
  | cons first rest =>
    have hrest : 0 + 1 + rest.length ≤ (first :: rest).length := by
      rw [List.length_cons]
      omega
    rw [checkRoles_cons_eq_ok_iff, cons_mem_leading_iff,
      ← @checkRoles_lead_iff _ count _ _ (Nat.succ_pos 0) hrest]
    cases first <;> simp [checkRole]

/-- What passes the check behind the template is what the grammar has there. -/
theorem checkRoles_trailing_iff (hposition : templateAt < position)
    (hcount : position + back.length = count) :
    (checkRoles templateAt count position back = .ok () ∧ .template ∉ back) ↔
      back ∈ trailing.matches' := by
  induction back generalizing position with
  | nil => simp [checkRoles, nil_mem_trailing]
  | cons first rest ih =>
    rw [List.length_cons] at hcount
    rw [checkRoles_cons_eq_ok_iff, cons_mem_trailing_iff,
      ← @ih (position + 1) (by omega) (by omega)]
    have hbehind : ¬ position < templateAt := by omega
    have hzero : position ≠ 0 := by omega
    have hlast : position + 1 = count ↔ rest = [] := by
      rw [← List.length_eq_zero_iff]
      omega
    cases first with
    | values =>
      simp only [checkRole, hbehind, if_false, hlast]
      by_cases hrest : rest = [] <;> simp [hrest, checkRoles]
    | _ => simp [checkRole, hposition, hbehind, hzero]

/-- Roles around a first template are an overload exactly when each side has the form that the
grammar gives it. -/
theorem validate_append_template_iff (hfront : .template ∉ front) :
    validate (front ++ .template :: back) = .ok () ↔
      front ∈ leading.matches' ∧ back ∈ trailing.matches' := by
  have hcount : (front ++ Role.template :: back).count .template = 1 ↔ .template ∉ back := by
    rw [List.count_append, List.count_cons_self, List.count_eq_zero_of_not_mem hfront,
      ← List.count_eq_zero]
    omega
  have hat : (front ++ Role.template :: back).idxOf .template = front.length := by
    rw [List.idxOf_append_of_notMem hfront, List.idxOf_cons_self, Nat.add_zero]
  have hlength : front.length + 1 + back.length = (front ++ Role.template :: back).length := by
    rw [List.length_append, List.length_cons]
    omega
  rw [← @checkRoles_leading_iff (front ++ .template :: back).length,
    ← checkRoles_trailing_iff (Nat.lt_succ_self front.length) hlength]
  unfold validate
  split
  · next hone =>
    rw [hat, checkRoles_append_eq_ok_iff, checkRoles_cons_eq_ok_iff, Nat.zero_add]
    simp [checkRole, hfront, hcount.mp hone]
  · next hmany => simp [mt hcount.mpr hmany]

/-- The check accepts exactly the words of the grammar. -/
theorem validate_eq_ok_iff_mem_grammar : validate roles = .ok () ↔ roles ∈ grammar.matches' := by
  rw [mem_grammar_iff]
  constructor
  · intro h
    have hcount := (validate_eq_ok_iff.mp h).1
    obtain ⟨front, back, rfl, hfront⟩ :=
      List.eq_append_cons_of_mem (List.count_pos_iff.mp (by omega : 0 < roles.count .template))
    exact ⟨front, back, rfl, (validate_append_template_iff hfront).mp h⟩
  · rintro ⟨front, back, rfl, hfront, hback⟩
    exact (validate_append_template_iff (template_not_mem_of_leading hfront)).mpr ⟨hfront, hback⟩

end Check

end Overload

namespace Declare

open Overload

/-- A parameter that takes all remaining values. -/
def Parameter.TakesRest (parameter : Parameter) : Prop :=
  Text.ofString "params" ∈ parameter.modifiers

instance : DecidablePred Parameter.TakesRest :=
  fun parameter => inferInstanceAs (Decidable (Text.ofString "params" ∈ parameter.modifiers))

/-- The role of a parameter behind the template. -/
def valueRole (parameter : Parameter) : Role :=
  if parameter.TakesRest then .values else .value

variable {symbols : Symbols} {parameters before after : List Parameter} {parameter : Parameter}
  {template : Text}

/-- The roles of parameters, cut at the template: those before it depend on their positions,
those behind it do not. -/
theorem rolesOf?_append (hname : parameter.name = template)
    (hbefore : ∀ other ∈ before, other.name ≠ template) :
    rolesOf? symbols (before ++ parameter :: after) template =
      some (before.zipIdx.map (fun entry => roleOf symbols before.length entry.2 entry.1) ++
        .template :: after.map valueRole) := by
  have hat : (before ++ parameter :: after).findIdx (fun other => decide (other.name = template)) =
      before.length := by
    rw [List.findIdx_append, List.findIdx_eq_length_of_false fun other hother =>
      decide_eq_false (hbefore other hother), if_neg (Nat.lt_irrefl _), List.findIdx_cons,
      decide_eq_true hname]
    exact Nat.zero_add _
  have hafter : (after.zipIdx (before.length + 1)).map
      (fun entry => roleOf symbols before.length entry.2 entry.1) = after.map valueRole := by
    have hbehind : ∀ entry ∈ after.zipIdx (before.length + 1),
        roleOf symbols before.length entry.2 entry.1 = valueRole entry.1 := by
      intro entry hentry
      have hle := List.le_snd_of_mem_zipIdx hentry
      rw [roleOf, if_neg (by omega), if_neg (by omega), if_neg (by omega)]
      rfl
    calc _ = (after.zipIdx (before.length + 1)).map (valueRole ∘ Prod.fst) :=
          List.map_congr_left hbehind
      _ = after.map valueRole := by rw [← List.map_map, List.zipIdx_map_fst]
  rw [rolesOf?, hat, if_pos (by simp), List.zipIdx_append, List.map_append, List.zipIdx_cons,
    List.map_cons, Nat.zero_add, hafter]
  simp [roleOf]

/-- Before the template, the roles of parameters are those that the grammar has there. -/
theorem roles_before_mem_leading (symbols : Symbols) (before : List Parameter) :
    before.zipIdx.map (fun entry => roleOf symbols before.length entry.2 entry.1) ∈
      leading.matches' := by
  cases before with
  | nil => exact nil_mem_leading
  | cons first rest =>
    rw [List.zipIdx_cons, List.map_cons, cons_mem_leading_iff, mem_lead_iff]
    constructor
    · rw [roleOf, if_neg (by simp)]
      split
      · exact .inl rfl
      · rw [if_pos (by simp)]
        split <;> simp
    · intro role hrole
      obtain ⟨entry, hentry, rfl⟩ := List.mem_map.mp hrole
      have hle := List.le_snd_of_mem_zipIdx hentry
      have hlt := List.snd_lt_add_of_mem_zipIdx hentry
      rw [roleOf, List.length_cons, if_neg (by omega), if_neg (by omega), if_pos (by omega)]
      split <;> simp

/-- Behind the template, the roles of parameters are those that the grammar has there exactly
when only the last parameter may take the remaining values. -/
theorem map_valueRole_mem_trailing_iff :
    after.map valueRole ∈ trailing.matches' ↔ ∀ other ∈ after.dropLast, ¬ other.TakesRest := by
  induction after with
  | nil => exact iff_of_true nil_mem_trailing (List.forall_mem_nil _)
  | cons first rest ih =>
    rw [List.map_cons, cons_mem_trailing_iff, ih]
    cases rest with
    | nil =>
      unfold valueRole
      split <;> simp
    | cons second rest =>
      rw [List.dropLast_cons_cons, List.forall_mem_cons]
      unfold valueRole
      split <;> simp_all

/-- Parameters one of which has a name are cut at the first one that has it. -/
theorem exists_append_of_name_mem (h : template ∈ parameters.map Parameter.name) :
    ∃ before parameter after, parameters = before ++ parameter :: after ∧
      parameter.name = template ∧ ∀ other ∈ before, other.name ≠ template := by
  obtain ⟨named, hnamed, hname⟩ := List.mem_map.mp h
  have hsome : (parameters.find? fun other => decide (other.name = template)).isSome :=
    List.find?_isSome.mpr ⟨named, hnamed, decide_eq_true hname⟩
  obtain ⟨parameter, hfound⟩ := Option.isSome_iff_exists.mp hsome
  obtain ⟨hparameter, before, after, hcut, hbefore⟩ := List.find?_eq_some_iff_append.mp hfound
  refine ⟨before, parameter, after, hcut, of_decide_eq_true hparameter, fun other hother => ?_⟩
  simpa using hbefore other hother

/-- The check of overloads accepts exactly the words of the grammar. If a parameter has the name
of the template, the parameters have roles, and these are accepted exactly if no parameter behind
the first one of that name, the last parameter aside, takes all remaining values. -/
theorem validate_accepts_grammar :
    (∀ roles, validate roles = .ok () ↔ roles ∈ grammar.matches') ∧
      ∀ (symbols : Symbols) (parameters : List Parameter) (template : Text),
        template ∈ parameters.map Parameter.name →
          ∃ before parameter after roles, parameters = before ++ parameter :: after ∧
            parameter.name = template ∧ (∀ other ∈ before, other.name ≠ template) ∧
            rolesOf? symbols parameters template = some roles ∧
            (validate roles = .ok () ↔ ¬ ∃ other ∈ after.dropLast, other.TakesRest) := by
  refine ⟨fun roles => validate_eq_ok_iff_mem_grammar, ?_⟩
  intro symbols parameters template hmem
  obtain ⟨before, parameter, after, rfl, hname, hbefore⟩ := exists_append_of_name_mem hmem
  have hlead := roles_before_mem_leading symbols before
  refine ⟨before, parameter, after, _, rfl, hname, hbefore, rolesOf?_append hname hbefore, ?_⟩
  rw [validate_append_template_iff (template_not_mem_of_leading hlead), and_iff_right hlead,
    map_valueRole_mem_trailing_iff]
  simp only [not_exists, not_and]

/-- An extension method with an exception before its template, and with values behind it of which
the last but one takes the rest; and the same parameters with the last two exchanged. -/
theorem validate_accepts_grammar_rest :
    let receiver : Parameter := ⟨"log", "ILogger", ["this"]⟩
    let exception : Parameter := ⟨"ex", "System.Exception", []⟩
    let message : Parameter := ⟨"message", "string", []⟩
    let rest : Parameter := ⟨"args", "object[]", ["params"]⟩
    let value : Parameter := ⟨"id", "int", []⟩
    let early := [receiver, exception, message, rest, value]
    let last := [receiver, exception, message, value, rest]
    Text.ofString "message" ∈ early.map Parameter.name ∧
      (∃ roles, rolesOf? {} early "message" = some roles ∧ validate roles ≠ .ok ()) ∧
      Text.ofString "message" ∈ last.map Parameter.name ∧
      ∃ roles, rolesOf? {} last "message" = some roles ∧
        roles = [.receiver, .exception, .template, .value, .values] ∧ validate roles = .ok () ∧
        roles ∈ grammar.matches' := by
  intro receiver exception message rest value early last
  -- Both lists are cut at the third parameter.
  have hcut : ∀ {tail before after : List Parameter} {parameter : Parameter},
      receiver :: exception :: message :: tail = before ++ parameter :: after →
        parameter.name = Text.ofString "message" →
          (∀ other ∈ before, other.name ≠ Text.ofString "message") → after = tail := by
    intro tail before after parameter hsplit hname hbefore
    match before, hsplit, hbefore with
    | [], hsplit, _ =>
      cases hsplit
      exact absurd hname (by decide)
    | [_], hsplit, _ =>
      cases hsplit
      exact absurd hname (by decide)
    | [_, _], hsplit, _ =>
      cases hsplit
      rfl
    | _ :: _ :: _ :: _, hsplit, hbefore =>
      cases hsplit
      exact absurd rfl (hbefore message (by simp))
  have hearly : Text.ofString "message" ∈ early.map Parameter.name := by decide
  have hlast : Text.ofString "message" ∈ last.map Parameter.name := by decide
  obtain ⟨_, _, _, refused, hsplit, hname, hbefore, hrefused, hfault⟩ :=
    validate_accepts_grammar.2 {} early "message" hearly
  obtain ⟨_, _, _, accepted, hsplit', hname', hbefore', haccepted, hvalid⟩ :=
    validate_accepts_grammar.2 {} last "message" hlast
  have hroles : rolesOf? {} last "message" =
      some [.receiver, .exception, .template, .value, .values] := by decide +kernel
  cases hcut hsplit hname hbefore
  cases hcut hsplit' hname' hbefore'
  cases haccepted.symm.trans hroles
  have hok := hvalid.mpr (by decide)
  exact ⟨hearly, ⟨refused, hrefused, fun h => hfault.mp h (by decide)⟩, hlast, _, haccepted, rfl,
    hok, (validate_accepts_grammar.1 _).mp hok⟩

end Declare

end TemplateLint
