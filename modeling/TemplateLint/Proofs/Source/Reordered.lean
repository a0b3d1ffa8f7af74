import TemplateLint.Proofs.Call.Misplaced
import TemplateLint.Proofs.Source.Location
import TemplateLint.Proofs.Source.Patch
import TemplateLint.Proofs.Source.Scanned

/-!
# Moved arguments in the source

The arguments of a call and the texts between them make up the source from the first
argument to the last one, in whatever order the arguments are taken. Main statement: mending
a source moves one argument in each of some ranges that do not overlap, and changes nothing
else.
-/

namespace TemplateLint.Source

/-- Without separators one argument is what it is. -/
theorem interleave_singleton (arg : Text) (separators : List Text) :
    interleave [arg] separators = arg := by
  cases separators with
  | nil => exact List.append_nil arg
  | cons separator rest => rfl

/-- A separator stands between the first two arguments. -/
theorem interleave_cons_cons (arg next separator : Text) (args rest : List Text) :
    interleave (arg :: next :: args) (separator :: rest) =
      arg ++ separator ++ interleave (next :: args) rest := rfl

/-- There is one separator less than there are ranges. -/
theorem length_separators (t : Text) (first : Range) (later : List Range) :
    (separators t (first :: later)).length = later.length := by
  induction later generalizing first with
  | nil => rfl
  | cons second later ih => rw [separators, List.length_cons, ih, List.length_cons]

/-- Arguments with separators between them are a permutation of both. -/
theorem interleave_perm {args seps : List Text} (h : args.length = seps.length + 1) :
    (interleave args seps).Perm (args.flatten ++ seps.flatten) := by
  induction seps generalizing args with
  | nil =>
    obtain ⟨arg, rfl⟩ := List.length_eq_one_iff.mp h
    rw [interleave_singleton]
    simp
  | cons separator seps ih =>
    match args, h with
    | arg :: next :: args, h =>
      have hrest : (interleave (next :: args) seps).Perm _ := ih (by simpa using h)
      rw [interleave_cons_cons, List.flatten_cons, List.flatten_cons (L := seps),
        List.append_assoc, List.append_assoc]
      refine List.Perm.append_left arg ((List.Perm.append_left separator hrest).trans ?_)
      exact List.perm_append_comm_assoc _ _ _

/-- The arguments in their order, with what stands between them, are the source from the
first one to the last one. -/
theorem interleave_ranges {t : Text} {start : Nat} {first last : Range} {later : List Range}
    (h : Consecutive start (first :: later)) (hlast : (first :: later).getLast? = some last) :
    interleave ((first :: later).map (·.of t)) (separators t (first :: later)) =
      t.slice first.start last.stop := by
  induction later generalizing start first with
  | nil =>
    cases List.getLast?_singleton.symm.trans hlast
    exact interleave_singleton _ _
  | cons second later ih =>
    rw [List.getLast?_cons_cons] at hlast
    cases h with
    | cons hstart horder hlater =>
      have hrest := ih hlater hlast
      cases hlater with
      | cons hgap hsecond hmore =>
        have hend := (Consecutive.cons (Nat.le_refl _) hsecond hmore).start_le_of_getLast? hlast
        rw [List.map_cons] at hrest
        rw [List.map_cons, List.map_cons, separators, interleave_cons_cons, hrest, Range.of,
          Text.slice_append_slice horder hgap, Text.slice_append_slice (by omega) hend]

/-- A call of a source with the move that a diagnostic about an exception asks for. -/
structure Flagged (source : Prepared) (scanned : ScannedCall) (fix : Reorder) : Prop where
  /-- The call is read from the source. -/
  mem_scan : scanned ∈ scan source
  /-- The analysis of the call reports the exception. -/
  reported : ∃ found d, scanned.call.analyze source.config.shapes = .ok found ∧ d ∈ found ∧
    d.rule = .exceptionNotFirst ∧ d.fix = some fix

/-- The diagnostics of a call are among those that its analysis gives. -/
theorem flagged_of_mem {source : Prepared} {scanned : ScannedCall} {found : List Diagnostic}
    {d : Diagnostic} {fix : Reorder} (hscan : scanned ∈ scan source)
    (hfound : callDiagnostics source scanned = .ok found) (hd : d ∈ found)
    (hrule : d.rule = .exceptionNotFirst) (hfix : d.fix = some fix) :
    Flagged source scanned fix := by
  obtain ⟨all, hall, rfl⟩ := Outcome.map_eq_ok hfound
  exact ⟨hscan, all, d, hall, List.mem_of_mem_filter hd, hrule, hfix⟩

namespace Flagged

variable {source : Prepared} {scanned : ScannedCall} {fix : Reorder}

/-- The move takes one of the arguments to the left. -/
theorem exists_shift (h : Flagged source scanned fix) (t : Text) :
    ∃ shift : Shift Text, scanned.ranges.map (·.of t) = shift.before ∧
      fix = ⟨shift.source, shift.target⟩ ∧ shift.middle ≠ [] := by
  obtain ⟨found, d, hfound, hd, hrule, hfix⟩ := h.reported
  obtain ⟨_, binding, argument, exc, _, _, rfl, hmisplaced⟩ :=
    CallSite.misplaced_of_mem_analyze hfound hd hrule
  cases hfix
  have hlength := (List.getElem?_eq_some_iff.mp hmisplaced.getElem?_eq).1
  rw [← (isRead_of_mem_scan h.mem_scan).length_ranges, ← List.length_map (·.of t)] at hlength
  obtain ⟨shift, hbefore, _, hsource, htarget⟩ :=
    Source.exists_shift hlength (Nat.le_of_lt hmisplaced.lt)
  refine ⟨shift, hbefore.symm, by rw [hsource, htarget], fun hmiddle => ?_⟩
  have hlt := hmisplaced.lt
  rw [← hsource, ← htarget, Shift.source, Shift.target, hmiddle, List.append_nil] at hlt
  exact Nat.lt_irrefl _ hlt

end Flagged

/-- The edit that moves an argument of a call, whose ranges have a first and a last one. -/
theorem reorder_shift {t : Text} {scanned : ScannedCall} {shift : Shift Text} {first last : Range}
    (hargs : scanned.ranges.map (·.of t) = shift.before)
    (hfirst : scanned.ranges.head? = some first) (hlast : scanned.ranges.getLast? = some last) :
    reorder t scanned ⟨shift.source, shift.target⟩ =
      ⟨first.start, last.stop, interleave shift.after (separators t scanned.ranges)⟩ := by
  unfold reorder
  dsimp only
  rw [hargs, Int.toNat_natCast, Int.toNat_natCast, moveItem_shift, hfirst, hlast]
  rfl

/-- The arguments of a flagged call, with what stands between them, are a part of the source
in which one argument can be moved. -/
theorem Flagged.exists_ranges {text : Text} {config : Config} {file : Option Text}
    {scanned : ScannedCall} {fix : Reorder} (h : Flagged (prepare text config file) scanned fix) :
    ∃ (shift : Shift Text) (first last : Range),
      scanned.ranges.map (·.of text) = shift.before ∧ fix = ⟨shift.source, shift.target⟩ ∧
      shift.middle ≠ [] ∧ scanned.ranges.head? = some first ∧
      scanned.ranges.getLast? = some last ∧ first.start ≤ last.stop ∧ last.stop ≤ text.length ∧
      text.slice first.start last.stop =
        interleave shift.before (separators text scanned.ranges) := by
  have hread := isRead_of_mem_scan h.mem_scan
  obtain ⟨shift, hargs, hfix, hleft⟩ := h.exists_shift text
  cases hranges : scanned.ranges with
  | nil =>
    rw [hranges] at hargs
    exact absurd hargs.symm (by simp [Shift.before])
  | cons first later =>
    obtain ⟨last, hlast⟩ : ∃ last, (first :: later).getLast? = some last :=
      ⟨_, List.getLast?_eq_some_getLast (List.cons_ne_nil _ _)⟩
    have hconsecutive := hread.consecutive
    rw [hranges] at hconsecutive hargs
    refine ⟨shift, first, last, hargs, hfix, hleft, rfl, hlast, ?_, ?_, ?_⟩
    · cases hconsecutive with
      | cons _ horder hlater =>
        exact (Consecutive.cons (Nat.le_refl _) horder hlater).start_le_of_getLast? hlast
    · have hmem : last.stop ≤ (mask text).length :=
        hread.stop_le_length (hranges ▸ List.mem_of_getLast? hlast)
      rw [length_mask] at hmem
      exact hmem
    · rw [← hargs]
      exact (interleave_ranges hconsecutive hlast).symm

/-- A text is what a range holds after one argument of a call has moved to the left. The range
spans the arguments of a call that is flagged for the misplaced argument; the argument has
moved to the index that the diagnostic names, the other arguments have kept their order, and
what stood between the arguments stands between them as before. -/
inductive ArgumentMoved (source : Prepared) : Range → Text → Prop
  /-- The arguments of the call, before and after the move. -/
  | intro {scanned : ScannedCall} {found : List Diagnostic} {d : Diagnostic}
      {first last : Range} {shift : Shift Text} (hscan : scanned ∈ scan source)
      (hfound : callDiagnostics source scanned = .ok found) (hd : d ∈ found)
      (hrule : d.rule = .exceptionNotFirst) (hfix : d.fix = some ⟨shift.source, shift.target⟩)
      (hleft : shift.middle ≠ []) (hargs : scanned.ranges.map (·.of source.text) = shift.before)
      (hfirst : scanned.ranges.head? = some first) (hlast : scanned.ranges.getLast? = some last)
      (hbefore : source.text.slice first.start last.stop =
        interleave shift.before (separators source.text scanned.ranges)) :
    ArgumentMoved source ⟨first.start, last.stop⟩
      (interleave shift.after (separators source.text scanned.ranges))

/-- A moved argument permutes its range. -/
theorem ArgumentMoved.perm {source : Prepared} {range : Range} {content : Text}
    (h : ArgumentMoved source range content) : content.Perm (range.of source.text) := by
  cases h with
  | @intro scanned found d first last shift hscan hfound hd hrule hfix hleft hargs hfirst hlast
      hbefore =>
    have hcount : shift.before.length = (separators source.text scanned.ranges).length + 1 := by
      obtain ⟨later, hranges⟩ := List.head?_eq_some_iff.mp hfirst
      rw [← hargs, hranges, length_separators, List.length_map, List.length_cons]
    have hafter : shift.after.length = (separators source.text scanned.ranges).length + 1 := by
      rw [shift.after_perm.length_eq, hcount]
    rw [Range.of, hbefore]
    exact (interleave_perm hafter).trans
      ((shift.after_perm.flatten.append_right _).trans (interleave_perm hcount).symm)

/-- The move that mends a call is that of a diagnostic. -/
theorem exists_of_firstFix? {found : List Diagnostic} {fix : Reorder}
    (h : firstFix? found = some fix) :
    ∃ d ∈ found, d.rule = .exceptionNotFirst ∧ d.fix = some fix := by
  obtain ⟨d, hd, hfix⟩ := List.exists_of_findSome?_eq_some h
  split at hfix
  · next hrule => exact ⟨d, hd, hrule, hfix⟩
  · cases hfix

/-- Every edit that mends a source moves an argument. -/
theorem argumentMoved_of_mem_fixEdits {text : Text} {config : Config} {file : Option Text}
    {calls : List (ScannedCall × List Diagnostic)}
    (h : (callsWithDiagnostics (prepare text config file)).result = .ok calls) {edit : Edit}
    (hedit : edit ∈ fixEdits text calls) :
    edit.IsIn text.length ∧
      ArgumentMoved (prepare text config file) edit.range edit.replacement := by
  obtain ⟨⟨scanned, found⟩, hpair, hfix⟩ := List.mem_filterMap.mp hedit
  obtain ⟨fix, hfirst, rfl⟩ := Option.map_eq_some_iff.mp hfix
  obtain ⟨⟨place, hnote⟩, hfound⟩ := exists_of_mem_analyzeNotes h hpair
  obtain ⟨d, hd, hrule, hfix⟩ := exists_of_firstFix? hfirst
  have hscan : scanned ∈ scan (prepare text config file) :=
    List.mem_filterMap.mpr ⟨_, hnote, rfl⟩
  obtain ⟨shift, first, last, hargs, rfl, hleft, hhead, hlast, horder, hstop, hbefore⟩ :=
    (flagged_of_mem hscan hfound hd hrule hfix).exists_ranges
  rw [reorder_shift hargs hhead hlast]
  exact ⟨⟨rfl, rfl, horder, hstop⟩,
    .intro hscan hfound hd hrule hfix hleft hargs hhead hlast hbefore⟩

/-- Mending a source only moves arguments. The text keeps its length and its code points, and
there are as many ranges as calls are changed, which do not overlap, such that in each of
them one argument of a flagged call has moved to the left and outside of them everything is
as it was. -/
theorem mended_moves_arguments {text mended : Text} {config : Config} {file : Option Text}
    {count : Nat} (h : (applyFixes text config file).result = .ok (mended, count)) :
    mended.length = text.length ∧ mended.Perm text ∧
      ∃ ranges : List Range, ranges.length = count ∧
        (ranges.Pairwise fun a b => a.stop ≤ b.start) ∧
        (∀ range ∈ ranges, ArgumentMoved (prepare text config file) range (range.of mended)) ∧
        ∀ offset, (∀ range ∈ ranges, offset < range.start ∨ range.stop ≤ offset) →
          mended[offset]? = text[offset]? := by
  obtain ⟨calls, hcalls, hedits⟩ := Outcome.map_eq_ok h
  cases hedits
  have hmoved : ∀ edit ∈ keptEdits (fixEdits text calls), edit.IsIn text.length ∧
      ArgumentMoved (prepare text config file) edit.range edit.replacement :=
    fun edit hedit => argumentMoved_of_mem_fixEdits hcalls (mem_of_mem_keptEdits hedit)
  have hapart : Apart text.length 0 (keptEdits (fixEdits text calls)) :=
    apart_keptEdits fun edit hedit => (argumentMoved_of_mem_fixEdits hcalls hedit).1
  have hkeep : KeepLength (keptEdits (fixEdits text calls)) := by
    intro edit hedit
    obtain ⟨hin, hcontent⟩ := hmoved edit hedit
    have hlength : edit.replacement.length = (edit.range.of text).length := hcontent.perm.length_eq
    rw [Range.of, Text.length_slice hin.stop_le] at hlength
    have hstart := hin.start_eq
    have hstop := hin.stop_eq
    have horder := hin.start_le_stop
    omega
  refine ⟨hapart.length_foldr hkeep,
    hapart.perm_foldr hkeep fun edit hedit => (hmoved edit hedit).2.perm,
    (keptEdits (fixEdits text calls)).map Edit.range, List.length_map _, hapart.pairwise_range,
    ?_, fun offset hout => hapart.getElem?_foldr_of_outside hkeep fun edit hedit => ?_⟩
  · intro range hrange
    obtain ⟨edit, hedit, rfl⟩ := List.mem_map.mp hrange
    rw [hapart.slice_foldr hkeep hedit]
    exact (hmoved edit hedit).2
  · have hin := (hmoved edit hedit).1
    have hside := hout edit.range (List.mem_map_of_mem hedit)
    rw [hin.start_eq, hin.stop_eq]
    omega

/-- An exception passes a literal with a comma in it, across a comment with a comma in it and
the end of a line. -/
theorem mended_moves_arguments_comment :
    let text : Text := "catch (Exception ex) \x7b Error(\"\x7bA\x7d, b\" /* , */,\n  ex); \x7d"
    let mended : Text := "catch (Exception ex) \x7b Error(ex /* , */,\n  \"\x7bA\x7d, b\"); \x7d"
    (applyFixes text {} none).result = .ok (mended, 1) ∧ mended.length = text.length ∧
      mended.Perm text ∧ ∃ range, ArgumentMoved (prepare text {} none) range (range.of mended) ∧
        ∀ offset, offset < range.start ∨ range.stop ≤ offset → mended[offset]? = text[offset]? := by
  intro text mended
  have h : (applyFixes text {} none).result = .ok (mended, 1) := by decide +kernel
  obtain ⟨hlength, hperm, ranges, hcount, _, hmoved, hout⟩ := mended_moves_arguments h
  obtain ⟨range, rfl⟩ := List.length_eq_one_iff.mp hcount
  refine ⟨h, hlength, hperm, range, hmoved range List.mem_cons_self, fun offset hside => ?_⟩
  exact hout offset fun other hother => List.mem_singleton.mp hother ▸ hside

end TemplateLint.Source
