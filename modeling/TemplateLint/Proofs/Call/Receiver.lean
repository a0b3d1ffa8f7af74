import Mathlib.Data.List.Find
import TemplateLint.Proofs.Call.Matched

/-!
# Calls that pass their receiver

An extension method is called on its receiver, or in static form with the receiver as its first
argument. Main statement: if every overload of a method has a receiver, both forms have the same
diagnostics, but for the moves, which count one argument more in the static form.
-/

namespace TemplateLint

/-- The call in static form, which passes its receiver. -/
def CallSite.withReceiver (call : CallSite) (receiver : Argument) : CallSite :=
  { call with arguments := receiver :: call.arguments, explicitReceiver := true }

/-- The move with one argument more in front. -/
def Reorder.behindReceiver (move : Reorder) : Reorder :=
  ⟨move.argument + 1, move.target + 1⟩

/-- The diagnostic of a call with one argument more in front. -/
def Diagnostic.behindReceiver (d : Diagnostic) : Diagnostic :=
  { d with fix := d.fix.map Reorder.behindReceiver }

/-- A diagnostic without a move is the same with one argument more in front. -/
theorem Diagnostic.behindReceiver_of_fix {d : Diagnostic} (h : d.fix = none) :
    d.behindReceiver = d := by
  rw [Diagnostic.behindReceiver, h, Option.map_none, ← h]

/-- Diagnostics without moves are the same with one argument more in front. -/
theorem map_behindReceiver_of_fix {found : List Diagnostic} (h : ∀ d ∈ found, d.fix = none) :
    found.map Diagnostic.behindReceiver = found :=
  (List.map_congr_left fun d hd => Diagnostic.behindReceiver_of_fix (h d hd)).trans
    (List.map_id' found)

/-- The diagnostics of a constant template ask for no move. -/
theorem fix_of_mem_templateDiagnostics {template : Argument} {value : Text}
    {values : List Argument} {found : List Diagnostic} {d : Diagnostic}
    (h : templateDiagnostics template value values = .ok found) (hd : d ∈ found) :
    d.fix = none := by
  refine of_mem_templateDiagnostics (fun d => d.fix = none) h hd (fun _ _ => rfl)
    (fun hole d habout => ?_) fun _ _ => rfl
  cases habout <;> rfl

/-- With one argument more in front, the moves of the exceptions count it. -/
theorem exceptionDiagnostics_add_one (values : List Argument) (indices : List Int)
    (target : Int) :
    exceptionDiagnostics values (indices.map (· + 1)) (target + 1) =
      (exceptionDiagnostics values indices target).map Diagnostic.behindReceiver := by
  simp only [exceptionDiagnostics, List.zip_map_left, List.filter_map, List.map_map]
  rfl

/-- The diagnostics of the template ask for no move. -/
theorem fix_of_mem_ownDiagnostics {template : Argument} {values : List Argument}
    {shape : Option Shape} {found : List Diagnostic} {d : Diagnostic}
    (h : ownDiagnostics template values shape = .ok found) (hd : d ∈ found) : d.fix = none := by
  unfold ownDiagnostics at h
  split at h
  · exact fix_of_mem_templateDiagnostics h hd
  · cases h
    split at hd
    · cases List.mem_singleton.mp hd
      rfl
    · cases hd

/-- With one argument more in front, a template and its values have the same diagnostics, but for
the moves. -/
theorem analyzeParts_add_one (template : Argument) (values : List Argument) (shape : Option Shape)
    (indices : List Int) (target : Int) :
    analyzeParts template values shape (indices.map (· + 1)) (target + 1) =
      (analyzeParts template values shape indices target).map
        (List.map Diagnostic.behindReceiver) := by
  rw [analyzeParts_eq, analyzeParts_eq, exceptionDiagnostics_add_one]
  cases hown : ownDiagnostics template values shape with
  | error numeral => rfl
  | ok own =>
    have hsame := map_behindReceiver_of_fix fun d => fix_of_mem_ownDiagnostics hown
    simp only [Except.map, List.map_append, hsame]

section Forms

variable {constant : Bool} {call : CallSite} {shape : Shape} {roles : List Role}
  {receiver : Argument} {args : List Argument}

/-- The template of roles behind a receiver. -/
theorem idxOf_template_receiver (roles : List Role) :
    (Role.receiver :: roles).idxOf .template = roles.idxOf .template + 1 :=
  List.idxOf_cons_ne _ (by nofun)

/-- A receiver fills its role, whatever it is. -/
theorem reads_receiver (h : .template ∈ roles) :
    reads constant (receiver :: args) (.receiver :: roles) = reads constant args roles := by
  have hfits : fits constant (.receiver :: roles) (receiver :: args) =
      fits constant roles args := by
    rw [fits_cons (List.ne_nil_of_mem h)]
    rfl
  rw [reads, reads, hfits, hasConstantTemplate, hasConstantTemplate, templateArgument?,
    templateArgument?, idxOf_template_receiver, List.getElem?_cons_succ]

/-- The candidates of the static form are those of the other form, behind a receiver. -/
theorem CallSite.candidates_withReceiver (hform : call.explicitReceiver = false)
    (hreceiver : ∀ overload ∈ shape.overloads, overload.roles.head? = some .receiver) :
    (call.withReceiver receiver).candidates shape =
      (call.candidates shape).map (.receiver :: ·) := by
  rw [candidates, candidates, List.map_filterMap]
  refine List.filterMap_congr fun overload hmem => ?_
  have hroles : overload.roles = .receiver :: overload.roles.tail :=
    List.eq_cons_of_mem_head? (hreceiver overload hmem)
  have hstatic : (call.withReceiver receiver).explicitReceiver = true := rfl
  rw [rolesFor, rolesFor, if_pos (hreceiver overload hmem), if_pos (hreceiver overload hmem),
    if_pos hstatic, if_neg (by simp [hform]), Option.map_some, ← hroles]

/-- A search among the candidates of the static form finds what it finds in the other form, behind
a receiver. -/
theorem CallSite.find?_candidates_withReceiver (hform : call.explicitReceiver = false)
    (hreceiver : ∀ overload ∈ shape.overloads, overload.roles.head? = some .receiver) :
    ((call.withReceiver receiver).candidates shape).find?
        (reads constant (receiver :: call.arguments)) =
      ((call.candidates shape).find? (reads constant call.arguments)).map (.receiver :: ·) := by
  rw [candidates_withReceiver hform hreceiver, List.find?_map]
  refine congrArg (Option.map _) (List.find?_congr fun roles hmem => ?_)
  exact reads_receiver (wellPlaced_of_mem_candidates hmem).template_mem

/-- The static form is read through the same overload, behind the receiver. -/
theorem CallSite.choose?_withReceiver (hform : call.explicitReceiver = false)
    (hreceiver : ∀ overload ∈ shape.overloads, overload.roles.head? = some .receiver) :
    (call.withReceiver receiver).choose? shape =
      (call.choose? shape).map (.receiver :: ·) := by
  rw [choose?_eq, choose?_eq, Option.map_or]
  exact congrArg₂ Option.or (find?_candidates_withReceiver hform hreceiver)
    (find?_candidates_withReceiver hform hreceiver)

/-- The indices of the values count the receiver. -/
theorem valueIndices_receiver (roles : List Role) (args : List Argument) :
    (Binding.ofRoles (.receiver :: roles) (receiver :: args)).valueIndices.map Int.ofNat =
      ((Binding.ofRoles roles args).valueIndices.map Int.ofNat).map (· + 1) := by
  simp only [Binding.ofRoles, idxOf_template_receiver, List.length_cons]
  rw [List.range_succ_eq_map, List.drop_succ_cons, ← List.map_drop, List.map_map, List.map_map]
  rfl

/-- The values are the same with the receiver in front. -/
theorem CallSite.values_withReceiver (roles : List Role) :
    (call.withReceiver receiver).values
        (.ofRoles (.receiver :: roles) (receiver :: call.arguments)) =
      call.values (.ofRoles roles call.arguments) := by
  have hstatic := values_ofRoles (call.withReceiver receiver) (.receiver :: roles)
  rw [idxOf_template_receiver] at hstatic
  rw [values_ofRoles]
  exact hstatic

/-- The static form of a call that is read through some roles. -/
theorem CallSite.analyze_withReceiver {table : ShapeTable} (hform : call.explicitReceiver = false)
    (hshape : table.lookup call.method = some shape)
    (hreceiver : ∀ overload ∈ shape.overloads, overload.roles.head? = some .receiver)
    (hchosen : call.choose? shape = some roles) :
    (call.withReceiver receiver).analyze table =
      (call.analyze table).map (List.map Diagnostic.behindReceiver) := by
  have hmatch : call.match? shape = some (.ofRoles roles call.arguments) := congrArg _ hchosen
  have hstatic : (call.withReceiver receiver).match? shape =
      some (.ofRoles (.receiver :: roles) (receiver :: call.arguments)) := by
    rw [match?, choose?_withReceiver hform hreceiver, hchosen]
    rfl
  obtain ⟨template, htemplate, _⟩ := exists_template_of_match? hmatch
  have htemplateStatic : (receiver :: call.arguments)[(Role.receiver :: roles).idxOf .template]? =
      some template := by
    rw [idxOf_template_receiver, List.getElem?_cons_succ]
    exact htemplate
  have hanalyze : (call.withReceiver receiver).analyze table = _ :=
    analyze_eq hshape hstatic htemplateStatic
  rw [values_withReceiver, valueIndices_receiver] at hanalyze
  rw [hanalyze, analyze_eq hshape hmatch htemplate, ← analyzeParts_add_one]
  simp only [Binding.ofRoles, idxOf_template_receiver, Int.natCast_succ]

end Forms

/-- If every overload of a method has a receiver, a call that passes the receiver has the same
diagnostics, in the same order, as the call on the receiver, but for the moves, whose indices are
larger by one. -/
theorem static_form_analyzed_alike {call : CallSite} {table : ShapeTable}
    (hform : call.explicitReceiver = false)
    (hreceiver : ∀ shape, table.lookup call.method = some shape →
      ∀ overload ∈ shape.overloads, overload.roles.head? = some .receiver)
    (receiver : Argument) :
    (call.withReceiver receiver).analyze table =
      (call.analyze table).map (List.map Diagnostic.behindReceiver) := by
  cases hshape : table.lookup call.method with
  | none =>
    have hsame : table.lookup (call.withReceiver receiver).method = none := hshape
    rw [CallSite.analyze, CallSite.analyze, hsame, hshape]
    rfl
  | some shape =>
    cases hchosen : call.choose? shape with
    | none =>
      have hsame : table.lookup (call.withReceiver receiver).method = some shape := hshape
      have hnone : (call.withReceiver receiver).choose? shape = none := by
        rw [CallSite.choose?_withReceiver hform (hreceiver shape hshape), hchosen, Option.map_none]
      rw [CallSite.analyze, CallSite.analyze, hsame, hshape]
      dsimp only
      rw [CallSite.match?, CallSite.match?, hnone, hchosen]
      rfl
    | some roles =>
      exact CallSite.analyze_withReceiver hform hshape (hreceiver shape hshape) hchosen

/-- An exception behind the template of an extension method: the static form moves it from and to
one index later. -/
theorem static_form_analyzed_alike_exception :
    let table := ShapeTable.ofShapes [{ name := "Info", overloads :=
      [ShapeTable.logging [.receiver], ShapeTable.logging [.receiver, .exception]] }]
    let template : Argument :=
      { text := "t", constant := some (Text.ofString "\x7bA\x7d") }
    let exc : Argument := { text := "ex", isException := true }
    let receiver : Argument := { text := "log" }
    let call : CallSite := { method := "Info", arguments := [template, exc] }
    call.explicitReceiver = false ∧ call.analyze table = .ok [misplacedException exc 1 0] ∧
      (call.withReceiver receiver).analyze table = .ok [misplacedException exc 2 1] := by
  intro table template exc receiver call
  have hreceiver : ∀ shape, table.lookup call.method = some shape →
      ∀ overload ∈ shape.overloads, overload.roles.head? = some .receiver := by
    intro shape hshape
    cases hshape
    decide
  have hcall : call.analyze table = .ok [misplacedException exc 1 0] := by decide +kernel
  have hstatic := static_form_analyzed_alike rfl hreceiver receiver
  rw [hcall] at hstatic
  exact ⟨rfl, hcall, hstatic⟩

end TemplateLint
