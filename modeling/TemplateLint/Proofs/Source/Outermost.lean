import TemplateLint.Proofs.Source.Nesting
import TemplateLint.Proofs.Source.Reordered

/-!
# The calls that are mended

The edits of calls are nested as the calls are, so an edit overlaps the last one that is kept
if and only if its call lies in the call of that one. Main statement: mending a source changes
the calls with a misplaced exception that lie in no other such call, and it leaves the source
alone if and only if the analysis reports no misplaced exception.
-/

namespace TemplateLint.Source

/-- Whether one call lies between the parentheses of the other. -/
def ScannedCall.encloses (outer inner : ScannedCall) : Bool :=
  decide (outer.openParen < inner.openParen) && decide (inner.closeParen < outer.closeParen)

/-- What encloses the one of two calls and lies in the other. -/
theorem ScannedCall.encloses_trans {outer middle inner : ScannedCall}
    (h : outer.encloses middle = true) (h' : middle.encloses inner = true) :
    outer.encloses inner = true := by
  simp only [encloses, Bool.and_eq_true, decide_eq_true_eq] at h h' ⊢
  omega

/-- The calls of a list that lie in no other one of the list. -/
def outermost (calls : List ScannedCall) : List ScannedCall :=
  calls.filter fun inner => !calls.any fun outer => outer.encloses inner

/-- Whether a diagnostic of a call, for a rule that is switched on, is about a misplaced
exception. -/
def isReported (source : Prepared) (scanned : ScannedCall) : Bool :=
  match callDiagnostics source scanned with
  | .ok found => found.any fun d => decide (d.rule = .exceptionNotFirst)
  | .error _ => false

/-- The calls of a source with a misplaced exception. -/
def reportedCalls (source : Prepared) : List ScannedCall :=
  (scan source).filter (isReported source)

/-- The edits of two calls, the first of which opens first, lie as the calls do. -/
structure EditsNested (edit : ScannedCall → Edit) (first second : ScannedCall) : Prop where
  /-- The first call does not lie in the second one. -/
  not_encloses : second.encloses first = false
  /-- The edits start in the order of the calls. -/
  start_lt : (edit first).start < (edit second).start
  /-- The edits overlap if the second call lies in the first one. -/
  overlaps_iff : (edit second).start < (edit first).stop ↔ first.encloses second = true

/-- No call lies in itself. -/
theorem ScannedCall.not_encloses_self (scanned : ScannedCall) :
    scanned.encloses scanned = false := by
  simp [encloses]

/-- The first of some nested calls lies in none of them. -/
theorem not_any_encloses_first {edit : ScannedCall → Edit} {first : ScannedCall}
    {later : List ScannedCall} (h : ∀ second ∈ later, EditsNested edit first second) :
    ((first :: later).any fun outer => outer.encloses first) = false := by
  rw [List.any_cons, first.not_encloses_self, Bool.false_or, List.any_eq_false]
  intro second hsecond
  rw [(h second hsecond).not_encloses]
  exact Bool.false_ne_true

/-- The edits that keep apart are those of the calls that lie in no other one, without those
that start too early. What lies in a call that starts too early has to start too early itself,
as it does if the bound is where the edit of one of the calls stops. -/
theorem keepApart_map {edit : ScannedCall → Edit} {calls : List ScannedCall} {bound : Int}
    (h : calls.Pairwise (EditsNested edit))
    (hbound : ∀ outer ∈ calls, ∀ inner ∈ calls, outer.encloses inner = true →
      (edit outer).start < bound → (edit inner).start < bound) :
    keepApart bound (calls.map edit) = (calls.filter fun inner =>
      decide (bound ≤ (edit inner).start) && !calls.any fun outer => outer.encloses inner).map
        edit := by
  induction calls generalizing bound with
  | nil => rfl
  | cons first later ih =>
    obtain ⟨hfirst, hlater⟩ := List.pairwise_cons.mp h
    rw [List.map_cons, keepApart]
    split
    · next hearly =>
      have hskip : decide (bound ≤ (edit first).start) = false := by
        rw [decide_eq_false_iff_not]
        omega
      rw [ih hlater fun outer houter inner hinner => hbound outer (List.mem_cons_of_mem _ houter)
        inner (List.mem_cons_of_mem _ hinner), List.filter_cons, hskip, Bool.false_and]
      congr 1
      refine List.filter_congr fun inner hinner => ?_
      rw [List.any_cons]
      cases hin : first.encloses inner with
      | false => rw [Bool.false_or]
      | true =>
        have hstart :=
          hbound first List.mem_cons_self inner (List.mem_cons_of_mem _ hinner) hin hearly
        have htooEarly : decide (bound ≤ (edit inner).start) = false := by
          rw [decide_eq_false_iff_not]
          omega
        rw [htooEarly, Bool.false_and, Bool.false_and]
    · next hstart =>
      have hkeep : (decide (bound ≤ (edit first).start) &&
          !(first :: later).any fun outer => outer.encloses first) = true := by
        rw [not_any_encloses_first hfirst, decide_eq_true (by omega)]
        rfl
      -- the edits behind the first one overlap it if and only if their calls lie in its call
      have hnext : ∀ outer ∈ later, ∀ inner ∈ later, outer.encloses inner = true →
          (edit outer).start < (edit first).stop → (edit inner).start < (edit first).stop := by
        intro outer houter inner hinner hin hover
        have hfirstOuter := (hfirst outer houter).overlaps_iff.mp hover
        exact (hfirst inner hinner).overlaps_iff.mpr (ScannedCall.encloses_trans hfirstOuter hin)
      rw [ih hlater hnext, List.filter_cons, if_pos hkeep, List.map_cons]
      congr 2
      refine List.filter_congr fun inner hinner => ?_
      have hnested := hfirst inner hinner
      have hlate : decide (bound ≤ (edit inner).start) = true := by
        have hlt := hnested.start_lt
        rw [decide_eq_true_eq]
        omega
      have hsame : decide ((edit first).stop ≤ (edit inner).start) = !first.encloses inner := by
        have hover := hnested.overlaps_iff
        cases hin : first.encloses inner with
        | false =>
          rw [hin] at hover
          rw [Bool.not_false, decide_eq_true_eq]
          exact Int.not_lt.mp fun hlt => Bool.false_ne_true (hover.mp hlt)
        | true =>
          have hlt := hover.mpr hin
          rw [Bool.not_true, decide_eq_false_iff_not]
          omega
      rw [hlate, hsame, List.any_cons, Bool.not_or, Bool.true_and]

/-- The call of a head opens with the parenthesis of the head. -/
theorem openParen_of_readCall? {source : Prepared} {found : Occurrence CallHead}
    {scanned : ScannedCall} (h : ((readCall? source found).bind fun
      | .call _ scanned => some scanned
      | _ => none) = some scanned) : scanned.openParen = found.stop - 1 := by
  obtain ⟨note, hread, hcall⟩ := Option.bind_eq_some_iff.mp h
  cases note with
  | unbalanced method place => cases hcall
  | malformed place failure => cases hcall
  | call place own =>
    cases hcall
    unfold readCall? at hread
    dsimp only at hread
    split at hread
    · cases hread
    · split at hread
      · cases hread
      · split at hread
        · cases hread
        · cases hread
          rfl

/-- The calls of a source open one behind the other. -/
theorem pairwise_scan (source : Prepared) :
    (scan source).Pairwise fun a b => a.openParen < b.openParen := by
  rw [scan, callNotes, List.filterMap_filterMap, List.pairwise_filterMap]
  refine (pairwise_heads source.masked).imp fun hheads first hfirst second hsecond => ?_
  have hopen := openParen_of_readCall? hfirst
  have hopen' := openParen_of_readCall? hsecond
  omega

section Extent

variable {start : Nat} {ranges : List Range} {first last : Range}

/-- No range starts before the first one. -/
theorem Consecutive.start_le_of_mem (h : Consecutive start ranges)
    (hfirst : ranges.head? = some first) : ∀ range ∈ ranges, first.start ≤ range.start := by
  cases h with
  | nil => cases hfirst
  | @cons _ range later _ horder hlater =>
    cases hfirst
    refine List.forall_mem_cons.mpr ⟨Nat.le_refl _, fun other hother => ?_⟩
    have hnext := hlater.pairwise.1 other hother
    omega

/-- No range stops behind the last one. -/
theorem Consecutive.stop_le_of_mem (h : Consecutive start ranges)
    (hlast : ranges.getLast? = some last) : ∀ range ∈ ranges, range.stop ≤ last.stop := by
  induction h with
  | nil => cases hlast
  | @cons start range later _ _ hlater ih =>
    cases later with
    | nil =>
      cases List.getLast?_singleton.symm.trans hlast
      exact List.forall_mem_singleton.mpr (Nat.le_refl _)
    | cons second rest =>
      rw [List.getLast?_cons_cons] at hlast
      exact List.forall_mem_cons.mpr ⟨hlater.start_le_of_getLast? hlast, ih hlast⟩

end Extent

/-- The edit of a call spans its arguments and stays between its parentheses. -/
structure Spans (edit : Edit) (scanned : ScannedCall) : Prop where
  /-- The edit starts behind the opening parenthesis. -/
  openParen_lt : (scanned.openParen : Int) < edit.start
  /-- The edit does not stop before it starts. -/
  start_le_stop : edit.start ≤ edit.stop
  /-- The edit stops in front of the closing parenthesis. -/
  stop_le : edit.stop ≤ scanned.closeParen
  /-- Every argument lies in the edit. -/
  mem : ∀ range ∈ scanned.ranges, edit.start ≤ range.start ∧ (range.stop : Int) ≤ edit.stop

/-- The edit that moves an argument of a call spans the arguments of the call. -/
theorem spans_reorder {source : Prepared} {scanned : ScannedCall} (h : IsRead source scanned)
    (hne : scanned.ranges ≠ []) (t : Text) (fix : Reorder) :
    Spans (reorder t scanned fix) scanned := by
  obtain ⟨first, later, hranges⟩ := List.exists_cons_of_ne_nil hne
  have hfirst : scanned.ranges.head? = some first := by rw [hranges, List.head?_cons]
  have hlast : scanned.ranges.getLast? = some (scanned.ranges.getLast hne) :=
    List.getLast?_eq_some_getLast hne
  have hstart : (reorder t scanned fix).start = first.start := by
    rw [reorder, hfirst]
    rfl
  have hstop : (reorder t scanned fix).stop = (scanned.ranges.getLast hne).stop := by
    rw [reorder, hlast]
    rfl
  have hbefore := h.consecutive.start_le_of_mem hfirst
  have hbehind := h.consecutive.stop_le_of_mem hlast
  have hopen := h.spaced.bounds first (List.mem_of_head? hfirst)
  have hclose := h.spaced.bounds _ (List.getLast_mem hne)
  have horder := hbehind first (List.mem_of_head? hfirst)
  refine ⟨by omega, by omega, by omega, fun range hrange => ?_⟩
  have hleft := hbefore range hrange
  have hright := hbehind range hrange
  omega

/-- The edits that span the arguments of two calls lie as the calls do. -/
theorem editsNested_of_spans {source : Prepared} {edit : ScannedCall → Edit}
    {first second : ScannedCall} (hfirst : IsRead source first) (hsecond : IsRead source second)
    (hspan : Spans (edit first) first) (hspan' : Spans (edit second) second)
    (hlt : first.openParen < second.openParen) : EditsNested edit first second := by
  have hopen := hspan.openParen_lt
  have hopen' := hspan'.openParen_lt
  have horder := hspan.start_le_stop
  have horder' := hspan'.start_le_stop
  have hclose := hspan.stop_le
  have hclose' := hspan'.stop_le
  have hnot : second.encloses first = false := by
    rw [ScannedCall.encloses, decide_eq_false (by omega), Bool.false_and]
  rcases hfirst.nested hsecond hlt with hafter | ⟨hinside, range, hrange, hstart, hstop⟩
  · refine ⟨hnot, by omega, ?_⟩
    have hapart : first.encloses second = false := by
      have hclosing : ¬ second.closeParen < first.closeParen := by omega
      rw [ScannedCall.encloses, decide_eq_false hclosing, Bool.and_false]
    rw [hapart]
    exact ⟨fun hover => by omega, nofun⟩
  · have hmem := hspan.mem range hrange
    refine ⟨hnot, by omega, ?_⟩
    have hin : first.encloses second = true := by
      rw [ScannedCall.encloses, decide_eq_true hlt, decide_eq_true hinside]
      rfl
    exact ⟨fun _ => hin, fun _ => by omega⟩

section Reported

variable {source : Prepared} {scanned : ScannedCall} {found : List Diagnostic}

/-- A call whose diagnostics are known is reported if one of them is about an exception. -/
theorem isReported_iff (h : callDiagnostics source scanned = .ok found) :
    isReported source scanned = true ↔ ∃ d ∈ found, d.rule = .exceptionNotFirst := by
  rw [isReported, h]
  simp only [List.any_eq_true, decide_eq_true_eq]

/-- A diagnostic about an exception says how to mend the call. -/
theorem exists_fix (h : callDiagnostics source scanned = .ok found) {d : Diagnostic}
    (hd : d ∈ found) (hrule : d.rule = .exceptionNotFirst) : ∃ fix, d.fix = some fix := by
  obtain ⟨all, hall, rfl⟩ := Outcome.map_eq_ok h
  obtain ⟨_, _, _, _, _, _, rfl, _⟩ :=
    CallSite.misplaced_of_mem_analyze hall (List.mem_of_mem_filter hd) hrule
  exact ⟨_, rfl⟩

/-- A call is mended if and only if it is reported. -/
theorem isSome_firstFix? (h : callDiagnostics source scanned = .ok found) :
    (firstFix? found).isSome = isReported source scanned := by
  rw [Bool.eq_iff_iff, isReported_iff h]
  constructor
  · intro hsome
    obtain ⟨fix, hfix⟩ := Option.isSome_iff_exists.mp hsome
    obtain ⟨d, hd, hrule, _⟩ := exists_of_firstFix? hfix
    exact ⟨d, hd, hrule⟩
  · rintro ⟨d, hd, hrule⟩
    obtain ⟨fix, hfix⟩ := exists_fix h hd hrule
    rw [firstFix?, List.findSome?_isSome_iff]
    exact ⟨d, hd, by rw [if_pos hrule, hfix]; rfl⟩

/-- A reported call has arguments. -/
theorem ranges_ne_nil_of_isReported (hscan : scanned ∈ scan source)
    (h : isReported source scanned = true) : scanned.ranges ≠ [] := by
  have hread := isRead_of_mem_scan hscan
  unfold isReported at h
  split at h
  · next found hfound =>
    obtain ⟨d, hd, hrule⟩ := List.any_eq_true.mp h
    obtain ⟨all, hall, rfl⟩ := Outcome.map_eq_ok hfound
    obtain ⟨_, _, _, _, _, _, _, hmisplaced⟩ := CallSite.misplaced_of_mem_analyze hall
      (List.mem_of_mem_filter hd) (of_decide_eq_true hrule)
    have hlength := (List.getElem?_eq_some_iff.mp hmisplaced.getElem?_eq).1
    rw [← hread.length_ranges] at hlength
    exact List.length_pos_iff.mp (by omega)
  · cases h

end Reported

/-- The edit that mends a call. -/
def mendingEdit (source : Prepared) (scanned : ScannedCall) : Edit :=
  reorder source.text scanned
    ((firstFix? ((callDiagnostics source scanned).toOption.getD [])).getD ⟨0, 0⟩)

/-- The edits of a source are those of its reported calls. -/
theorem fixEdits_eq {source : Prepared} {calls : List (ScannedCall × List Diagnostic)}
    (h : ∀ pair ∈ calls, callDiagnostics source pair.1 = .ok pair.2) :
    fixEdits source.text calls =
      ((calls.map Prod.fst).filter (isReported source)).map (mendingEdit source) := by
  induction calls with
  | nil => rfl
  | cons pair calls ih =>
    obtain ⟨hpair, hcalls⟩ := List.forall_mem_cons.mp h
    have hlater := ih hcalls
    rw [fixEdits] at hlater ⊢
    rw [List.map_cons, List.filter_cons, ← isSome_firstFix? hpair, List.filterMap_cons]
    cases hfix : firstFix? pair.2 with
    | none => exact hlater
    | some fix =>
      have hedit : mendingEdit source pair.1 = reorder source.text pair.1 fix := by
        rw [mendingEdit, hpair]
        simp only [Except.toOption, Option.getD_some, hfix]
      rw [Option.isSome_some, if_pos rfl, List.map_cons, hedit, ← hlater]
      rfl

/-- An analysis that succeeds meets every call that is read. -/
theorem map_fst_of_analyzeNotes {source : Prepared} {notes : List CallNote}
    {calls : List (ScannedCall × List Diagnostic)}
    (h : (analyzeNotes source notes).result = .ok calls) :
    calls.map Prod.fst = notes.filterMap fun
      | .call _ scanned => some scanned
      | _ => none := by
  induction notes generalizing calls with
  | nil =>
    cases h
    rfl
  | cons note notes ih =>
    cases note with
    | unbalanced method place => exact ih h
    | malformed place failure => exact ih h
    | call place scanned =>
      rw [analyzeNotes] at h
      split at h
      · cases h
      · obtain ⟨rest, hrest, rfl⟩ := Outcome.map_eq_ok h
        rw [List.map_cons, ih hrest]
        rfl

section Mended

variable (source : Prepared)

/-- The edit of a reported call spans the arguments of the call. -/
theorem spans_mendingEdit {scanned : ScannedCall} (h : scanned ∈ reportedCalls source) :
    Spans (mendingEdit source scanned) scanned := by
  obtain ⟨hscan, hreported⟩ := List.mem_filter.mp h
  exact spans_reorder (isRead_of_mem_scan hscan) (ranges_ne_nil_of_isReported hscan hreported) _ _

/-- The edits of the reported calls of a source lie as the calls do. -/
theorem pairwise_reportedCalls :
    (reportedCalls source).Pairwise (EditsNested (mendingEdit source)) := by
  refine ((pairwise_scan source).filter _).imp_of_mem fun hfirst hsecond hlt => ?_
  exact editsNested_of_spans (isRead_of_mem_scan (List.mem_filter.mp hfirst).1)
    (isRead_of_mem_scan (List.mem_filter.mp hsecond).1) (spans_mendingEdit source hfirst)
    (spans_mendingEdit source hsecond) hlt

/-- The edits that are kept are those of the reported calls that lie in no other one. -/
theorem keptEdits_reportedCalls :
    keptEdits ((reportedCalls source).map (mendingEdit source)) =
      (outermost (reportedCalls source)).map (mendingEdit source) := by
  have hpairwise := pairwise_reportedCalls source
  have hpositive : ∀ scanned ∈ reportedCalls source, -1 ≤ (mendingEdit source scanned).start := by
    intro scanned hscanned
    have hopen := (spans_mendingEdit source hscanned).openParen_lt
    omega
  -- the calls open one behind the other, so their edits are in order already
  have hsorted : ((reportedCalls source).map (mendingEdit source)).Pairwise
      fun a b => Edit.precedes a b = true := by
    rw [List.pairwise_map]
    refine hpairwise.imp fun hnested => ?_
    rw [Edit.precedes, decide_eq_true hnested.start_lt, Bool.true_or]
  rw [keptEdits, List.mergeSort_of_pairwise hsorted, keepApart_map hpairwise, outermost]
  · congr 1
    refine List.filter_congr fun inner hinner => ?_
    rw [decide_eq_true (hpositive inner hinner), Bool.true_and]
  · intro outer houter inner _ _ hearly
    have hstart := hpositive outer houter
    omega

/-- If some calls are reported, one of them lies in no other one. -/
theorem outermost_reportedCalls_eq_nil_iff :
    outermost (reportedCalls source) = [] ↔ reportedCalls source = [] := by
  have hpairwise := pairwise_reportedCalls source
  constructor
  · intro hnone
    cases hcalls : reportedCalls source with
    | nil => rfl
    | cons first later =>
      rw [hcalls] at hpairwise hnone
      have hfree := not_any_encloses_first (List.pairwise_cons.mp hpairwise).1
      have hmem : first ∈ outermost (first :: later) :=
        List.mem_filter.mpr ⟨List.mem_cons_self, by rw [hfree]; rfl⟩
      rw [hnone] at hmem
      cases hmem
  · intro hnone
    rw [hnone]
    rfl

end Mended

/-- Mending and analysis agree. If the analysis of a source succeeds, then mending it succeeds
too, and it changes as many calls as there are calls with a misplaced exception that lie in no
other such call. No call is changed if and only if the analysis reports no misplaced exception,
and then the source is as before. -/
theorem mended_count_eq_outermost {text : Text} {config : Config} {file : Option Text}
    {found : List Diagnostic} (h : (analyze text config file).result = .ok found) :
    ∃ mended count, (applyFixes text config file).result = .ok (mended, count) ∧
      count = (outermost (reportedCalls (prepare text config file))).length ∧
      (count = 0 ↔ ∀ d ∈ found, d.rule ≠ .exceptionNotFirst) ∧
      (count = 0 → mended = text) := by
  obtain ⟨calls, hcalls, rfl⟩ := Outcome.map_eq_ok h
  have hown : ∀ pair ∈ calls,
      callDiagnostics (prepare text config file) pair.1 = .ok pair.2 :=
    fun pair hpair => (exists_of_mem_analyzeNotes hcalls hpair).2
  have hscan : calls.map Prod.fst = scan (prepare text config file) :=
    map_fst_of_analyzeNotes hcalls
  have hkept : keptEdits (fixEdits text calls) =
      (outermost (reportedCalls (prepare text config file))).map
        (mendingEdit (prepare text config file)) := by
    have hedits := fixEdits_eq hown
    rw [hscan] at hedits
    rw [← keptEdits_reportedCalls]
    exact congrArg keptEdits hedits
  refine ⟨_, _, congrArg (Except.map _) hcalls, ?_, ?_, ?_⟩
  · rw [hkept, List.length_map]
  · rw [hkept, List.length_map, List.length_eq_zero_iff, outermost_reportedCalls_eq_nil_iff,
      reportedCalls, List.filter_eq_nil_iff, ← hscan]
    constructor
    · intro hnone d hd hrule
      obtain ⟨pair, hpair, hmem⟩ := List.mem_flatMap.mp hd
      exact hnone pair.1 (List.mem_map_of_mem hpair)
        ((isReported_iff (hown pair hpair)).mpr ⟨d, hmem, hrule⟩)
    · intro hnone scanned hscanned hreported
      obtain ⟨pair, hpair, rfl⟩ := List.mem_map.mp hscanned
      obtain ⟨d, hd, hrule⟩ := (isReported_iff (hown pair hpair)).mp hreported
      exact hnone d (List.mem_flatMap.mpr ⟨pair, hpair, hd⟩) hrule
  · intro hzero
    rw [List.length_eq_zero_iff.mp hzero]
    rfl

/-- Three calls are reported, one of which lies in another one, so two calls are changed. -/
theorem mended_count_eq_outermost_nested :
    let text : Text := Text.ofString ("Error(\"a\",Fatal(\"b\",new Exception())," ++
      "new Exception());Fatal(\"c\",new Exception())")
    (analyze text {} none).result.isOk = true ∧
      (reportedCalls (prepare text {} none)).length = 3 ∧
      ∃ mended, (applyFixes text {} none).result = .ok (mended, 2) := by
  intro text
  obtain ⟨hok, hreported, houtermost⟩ : (analyze text {} none).result.isOk = true ∧
      (reportedCalls (prepare text {} none)).length = 3 ∧
      (outermost (reportedCalls (prepare text {} none))).length = 2 := by
    decide +kernel
  refine ⟨hok, hreported, ?_⟩
  cases hfound : (analyze text {} none).result with
  | error numeral =>
    rw [hfound] at hok
    cases hok
  | ok found =>
    obtain ⟨mended, count, happly, hcount, _⟩ := mended_count_eq_outermost hfound
    rw [houtermost] at hcount
    exact ⟨mended, hcount ▸ happly⟩

end TemplateLint.Source
