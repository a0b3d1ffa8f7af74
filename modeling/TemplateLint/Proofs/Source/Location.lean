import TemplateLint.Proofs.Call.Anchor
import TemplateLint.Proofs.Expr.Literal
import TemplateLint.Proofs.Literal.Span
import TemplateLint.Proofs.Source.Range
import TemplateLint.Source.Analysis

/-!
# Places of diagnostics

A place in a decoded template is carried to its literal, from there to the argument, and
from the argument to the file. Main statement: every diagnostic of a source lies in an
argument of a call, on the line and in the column of its offset, and what a diagnostic of
a literal template covers is decoded to the part of the template of which it speaks.
-/

namespace TemplateLint

namespace Source

/-- The place of an argument: its literal, if it is one, and its whole range otherwise. -/
inductive Described (text : Text) (range : Range) (arg : Argument) : Prop
  /-- The span is the range. -/
  | whole (hliteral : arg.literal = none)
      (hspan : arg.span.Covers text range.start (range.stop - range.start))
  /-- The span is that of the literal, which stands in the range and has the value of the
  argument. -/
  | literal {lit : Literal} {place : Nat} {value : Text} (hliteral : arg.literal = some lit)
      (hkind : lit = Literal.ofSource lit.source) (hdecode : Literal.decode lit.source = .ok value)
      (hconstant : arg.constant = some value) (hat : Text.IsAt lit.source text place)
      (hspan : arg.span.Covers text place lit.source.length) (hstart : range.start ≤ place)
      (hstop : place + lit.source.length ≤ range.stop)

/-- A span covers code points of the text inside a range. -/
structure Inside (text : Text) (range : Range) (span : Span) (offset length : Nat) : Prop where
  /-- The span covers the code points. -/
  covers : span.Covers text offset length
  /-- They do not start before the range. -/
  start_le : range.start ≤ offset
  /-- They do not end after it. -/
  le_stop : offset + length ≤ range.stop

/-- An argument that is described stands at its place. -/
theorem described_of_describe {source : Prepared} {range : Range} {arg : Argument}
    (hindex : source.index = LineIndex.ofText source.text) (hle : range.stop ≤ source.text.length)
    (horder : range.start ≤ range.stop) (h : source.describe range = .ok arg) :
    Described source.text range arg := by
  unfold Prepared.describe at h
  obtain ⟨fact, hfact, h⟩ := Outcome.bind_eq_ok h
  cases h
  cases hlit : fact.literal? with
  | none =>
    refine .whole rfl ?_
    rw [Prepared.span, hindex]
    exact LineIndex.covers_span _ _ _ _
  | some lit =>
    obtain ⟨hat, hkind, value, hconstant, hdecode⟩ := Fact.literal_isAt hfact hlit
    have hend := hat.length_le
    rw [Range.of, Text.length_slice hle] at hend
    refine .literal rfl hkind hdecode ?_ (hat.trans (Text.isAt_slice (by omega))) ?_ (by omega)
      (by omega)
    · dsimp only
      rw [Prepared.constantOf, hconstant]
    · rw [hindex]
      exact LineIndex.covers_span _ _ _ _

/-- The span of an argument lies in its range. -/
theorem Described.inside_span {text : Text} {range : Range} {arg : Argument}
    (h : Described text range arg) (horder : range.start ≤ range.stop) :
    ∃ offset length, Inside text range arg.span offset length := by
  cases h with
  | whole _ hspan => exact ⟨_, _, hspan, Nat.le_refl _, by omega⟩
  | literal _ _ _ _ _ hspan hstart hstop => exact ⟨_, _, hspan, hstart, hstop⟩

/-- The source of the range decodes to a part of the template, in a literal of the same
kind as the one that spells the template. -/
structure Spells (text : Text) (lit : Literal) (value : Text) (start count offset length : Nat) :
    Prop where
  /-- The literal spells the template. -/
  decode_eq : Literal.decode lit.source = .ok value
  /-- The part lies in the template. -/
  le_length : start + count ≤ value.length
  /-- The content of the literal up to the offset is decoded to what comes before the part. -/
  decode_front : ∃ place, Text.IsAt lit.source text place ∧
    Literal.decode (lit.enclose (text.slice (place + lit.contentStart) offset)) =
      .ok (value.slice 0 start)
  /-- The source, enclosed like the literal, is decoded to the part. -/
  decode_part : Literal.decode (lit.enclose (text.slice offset (offset + length))) =
    .ok (value.slice start (start + count))

/-- A part of the template is shown in the range of its argument, and if the argument is a
literal, at source that spells it. -/
theorem Described.inside_locate {text value : Text} {range : Range} {arg : Argument}
    {start count : Nat} (h : Described text range arg) (horder : range.start ≤ range.stop)
    (hvalue : arg.template? = some value) (hbound : start + count ≤ value.length) :
    ∃ offset length, Inside text range (arg.locate (.relative start count)) offset length ∧
      ∀ lit, arg.literal = some lit → Spells text lit value start count offset length := by
  cases h with
  | whole hliteral hspan =>
    have hlocate : arg.locate (.relative start count) = arg.span := by
      rw [Argument.locate, hliteral]
    rw [hlocate]
    refine ⟨_, _, ⟨hspan, Nat.le_refl _, by omega⟩, fun lit hlit => ?_⟩
    rw [hliteral] at hlit
    cases hlit
  | @literal lit place spelled hliteral hkind hdecode hconstant hat hspan hstart hstop =>
    have hspelled : lit.value = .ok spelled := by
      rw [hkind]
      exact Literal.decode_eq_ok_iff.mp hdecode
    have hsame : spelled = value := by
      rw [Argument.template?, hconstant] at hvalue
      exact Option.some.inj hvalue
    subst hsame
    obtain ⟨offset, length, hcovers, hfirst, hlast, hfront, hpart⟩ :=
      Literal.covers_mapRange hspan hat hspelled
    refine ⟨offset, length, ⟨?_, by omega, by omega⟩, fun other hother => ?_⟩
    · rw [Argument.locate, hliteral]
      exact hcovers
    · rw [hliteral] at hother
      cases hother
      exact ⟨hdecode, hbound, ⟨place, hat, hfront⟩, hpart⟩

/-- A call that is read has its arguments in ranges that lie in the source. -/
theorem described_of_mem_scan {source : Prepared} {scanned : ScannedCall} {arg : Argument}
    (hindex : source.index = LineIndex.ofText source.text)
    (hmasked : source.masked.length = source.text.length) (h : scanned ∈ scan source)
    (harg : arg ∈ scanned.call.arguments) :
    ∃ range ∈ scanned.ranges, range.start ≤ range.stop ∧ range.stop ≤ source.text.length ∧
      Described source.text range arg := by
  obtain ⟨note, hnote, hscanned⟩ := List.mem_filterMap.mp h
  obtain ⟨head, _, hread⟩ := List.mem_filterMap.mp hnote
  unfold readCall? at hread
  dsimp only at hread
  split at hread
  · cases hread
  · split at hread
    · cases hread
      cases hscanned
    · next closing hclosing =>
      split at hread
      · cases hread
        cases hscanned
      · next args hargs =>
        cases hread
        cases hscanned
        have hclose := bounds_of_findClosing hclosing
        obtain ⟨range, hrange, hdescribe⟩ := Outcome.exists_of_mem_mapM hargs harg
        have hbounds := bounds_of_mem_splitTopLevel hclose.1 hrange
        have hstop : range.stop ≤ source.text.length := by omega
        exact ⟨range, hrange, hbounds.2.1, hstop,
          described_of_describe hindex hstop hbounds.2.1 hdescribe⟩

/-- The diagnostics of a run come from the calls that it meets. -/
theorem exists_of_mem_analyzeNotes {source : Prepared} {notes : List CallNote}
    {found : List (ScannedCall × List Diagnostic)} {pair : ScannedCall × List Diagnostic}
    (h : (analyzeNotes source notes).result = .ok found) (hmem : pair ∈ found) :
    (∃ place, .call place pair.1 ∈ notes) ∧ callDiagnostics source pair.1 = .ok pair.2 := by
  induction notes generalizing found with
  | nil =>
    cases h
    cases hmem
  | cons note notes ih =>
    have hlater : ∀ {rest}, (analyzeNotes source notes).result = .ok rest → pair ∈ rest →
        (∃ place, .call place pair.1 ∈ note :: notes) ∧
          callDiagnostics source pair.1 = .ok pair.2 := by
      intro rest hrest hpair
      obtain ⟨⟨place, hplace⟩, hdiagnostics⟩ := ih hrest hpair
      exact ⟨⟨place, List.mem_cons_of_mem _ hplace⟩, hdiagnostics⟩
    cases note with
    | unbalanced method place => exact hlater h hmem
    | malformed place failure => exact hlater h hmem
    | call place scanned =>
      rw [analyzeNotes] at h
      split at h
      · cases h
      · next own hown =>
        obtain ⟨rest, hrest, rfl⟩ := Outcome.map_eq_ok h
        rcases List.mem_cons.mp hmem with rfl | hpair
        · exact ⟨⟨place, List.mem_cons_self⟩, hown⟩
        · exact hlater hrest hpair

/-- A diagnostic of a source is one of a call that is scanned. -/
theorem exists_of_mem_analyze {text : Text} {config : Config} {file : Option Text}
    {found : List Diagnostic} {d : Diagnostic} (h : (analyze text config file).result = .ok found)
    (hd : d ∈ found) :
    ∃ scanned ∈ scan (prepare text config file), ∃ own,
      callDiagnostics (prepare text config file) scanned = .ok own ∧ d ∈ own := by
  obtain ⟨calls, hcalls, rfl⟩ := Outcome.map_eq_ok h
  obtain ⟨pair, hpair, hmem⟩ := List.mem_flatMap.mp hd
  obtain ⟨⟨place, hnote⟩, hown⟩ := exists_of_mem_analyzeNotes hcalls hpair
  exact ⟨pair.1, List.mem_filterMap.mpr ⟨_, hnote, rfl⟩, pair.2, hown, hmem⟩

/-- Every diagnostic of a source points at what it speaks of. It is one of a scanned call
and lies in the range of an argument of this call, on the line and in the column of its
offset. If it speaks of a part of the template, and the template is one literal, then the
source that it covers, enclosed like the literal, is decoded to this part. -/
theorem diagnostic_points_at_source {text : Text} {config : Config} {file : Option Text}
    {found : List Diagnostic} (h : (analyze text config file).result = .ok found)
    {d : Diagnostic} (hd : d ∈ found) :
    ∃ scanned ∈ scan (prepare text config file),
      (∃ own, callDiagnostics (prepare text config file) scanned = .ok own ∧ d ∈ own) ∧
      ∃ range ∈ scanned.ranges, ∃ offset length,
        range.start ≤ offset ∧ offset + length ≤ range.stop ∧ range.stop ≤ text.length ∧
        d.span.Covers text offset length ∧
        (d.IsOfTemplate → ∀ lit,
          scanned.call.templateLiteral? (prepare text config file).config.shapes = some lit →
          ∃ value start count, Template.Names value d start count ∧
            Spells text lit value start count offset length) := by
  obtain ⟨scanned, hscanned, own, hown, hmem⟩ := exists_of_mem_analyze h hd
  refine ⟨scanned, hscanned, ⟨own, hown, hmem⟩, ?_⟩
  obtain ⟨all, hall, rfl⟩ := Outcome.map_eq_ok hown
  obtain ⟨template, hargument, htemplate, hanchored⟩ :=
    CallSite.anchored_of_mem_analyze hall (List.mem_of_mem_filter hmem)
  cases hanchored with
  | part hvalue hnames hspan =>
    obtain ⟨range, hrange, horder, hstop, hdescribed⟩ :=
      described_of_mem_scan rfl (length_mask text) hscanned hargument
    obtain ⟨offset, length, hinside, hspells⟩ :=
      hdescribed.inside_locate horder hvalue hnames.bounds
    rw [← hspan] at hinside
    refine ⟨range, hrange, offset, length, hinside.start_le, hinside.le_stop, hstop,
      hinside.covers, ?_⟩
    intro _ lit hlit
    rw [CallSite.templateLiteral?, htemplate, Option.bind_some] at hlit
    exact ⟨_, _, _, hnames, hspells lit hlit⟩
  | argument harg hspan hnot =>
    obtain ⟨range, hrange, horder, hstop, hdescribed⟩ :=
      described_of_mem_scan rfl (length_mask text) hscanned harg
    obtain ⟨offset, length, hinside⟩ := hdescribed.inside_span horder
    rw [← hspan] at hinside
    exact ⟨range, hrange, offset, length, hinside.start_le, hinside.le_stop, hstop,
      hinside.covers, fun hof => absurd hof hnot⟩

/-- An open brace in a labelled literal of two lines, after a doubled quote: the report
stands on the second line and covers the rest of the template. -/
theorem diagnostic_points_at_source_verbatim :
    let text : Text := "Fatal(m: @\"a\n\"\"\x7bb c\", x);"
    let lit : Literal := ⟨"@\"a\n\"\"\x7bb c\"", true⟩
    let d : Diagnostic :=
      { rule := .parseError, message := Template.Cause.unclosed.message
        span := { line := some 2, column := some 3, length := some 4, offset := some 15 } }
    (analyze text {} none).result = .ok [d] ∧ d.IsOfTemplate ∧
      ∃ offset length value start count, d.span.Covers text offset length ∧
        Template.Names value d start count ∧
        Spells text lit value start count offset length := by
  intro text lit d
  have h : (analyze text {} none).result = .ok [d] := by decide +kernel
  have hof : d.IsOfTemplate := .inl rfl
  have hlit : ∀ scanned ∈ scan (prepare text {} none),
      scanned.call.templateLiteral? (prepare text {} none).config.shapes = some lit := by
    decide +kernel
  refine ⟨h, hof, ?_⟩
  obtain ⟨scanned, hscanned, _, range, _, offset, length, _, _, _, hcovers, hpart⟩ :=
    diagnostic_points_at_source h List.mem_cons_self
  obtain ⟨value, start, count, hnames, hspells⟩ := hpart hof lit (hlit scanned hscanned)
  exact ⟨offset, length, value, start, count, hcovers, hnames, hspells⟩

end Source

end TemplateLint
