import TemplateLint.Proofs.Literal.Bounds
import TemplateLint.Proofs.Literal.Mapping
import TemplateLint.Proofs.Text.Position

/-!
# Spans inside literals

A range of the value of a literal is shown at a range of its source. The place of that
range is counted from the place of the literal and from the line ends in front of it, and
it is the place that the lines of the whole file give.
-/

namespace TemplateLint

/-- The span covers `length` code points at an offset of the text, and its line and column
are those that the lines of the text give to this offset. -/
structure Span.Covers (span : Span) (text : Text) (offset length : Nat) : Prop where
  /-- The span starts at the offset. -/
  offset_eq : span.offset = some (offset : Int)
  /-- The span has the length. -/
  length_eq : span.length = some (length : Int)
  /-- The line is that of the offset. -/
  line_eq : span.line = some ((LineIndex.ofText text).locate offset).line
  /-- The column is that of the offset. -/
  column_eq : span.column = some ((LineIndex.ofText text).locate offset).column

/-- The span of an offset of a file covers what it says. -/
theorem LineIndex.covers_span (text : Text) (offset length : Nat) (file : Option Text) :
    ((ofText text).span offset length file).Covers text offset length :=
  ⟨rfl, rfl, rfl, rfl⟩

/-- A span that covers code points of a text is the one that its lines give to them. -/
theorem Span.Covers.eq_span {span : Span} {text : Text} {offset length : Nat}
    {file : Option Text} (h : span.Covers text offset length) (hfile : span.file = file) :
    span = (LineIndex.ofText text).span offset length file := by
  cases span
  simp only [LineIndex.span, Span.mk.injEq]
  exact ⟨hfile, h.line_eq, h.column_eq, h.length_eq, h.offset_eq⟩

namespace Literal

/-- The code points of a literal in front of an offset are those of the file in front of
the same place. -/
theorem take_cutAt {lit : Literal} {text : Text} {place start : Nat}
    (hat : Text.IsAt lit.source text place) (hstart : start ≤ lit.source.length) :
    lit.source.take (Text.cutAt lit.source start) = text.slice place (place + start) := by
  have hcut : Text.cutAt lit.source start = start := by
    rw [Text.cutAt, if_neg (by omega), Int.toNat_natCast, Nat.min_eq_left hstart]
  have hslice := hat.slice_eq (i := 0) hstart
  rw [Nat.add_zero] at hslice
  rw [hcut, hslice, Text.slice, List.drop_zero, Nat.sub_zero]

/-- The span of a source range of a literal covers that range in the file. -/
theorem covers_spanIn {lit : Literal} {text : Text} {origin : Span} {place width start : Nat}
    (length : Nat) (horigin : origin.Covers text place width)
    (hat : Text.IsAt lit.source text place) (hstart : start ≤ lit.source.length) :
    (lit.spanIn origin start length).Covers text (place + start) length := by
  have hend := hat.length_le
  have hlength : (text.slice place (place + start)).length = start := by
    rw [Text.length_slice (by omega), Nat.add_sub_cancel_left]
  have hplace := LineIndex.locate_add (show place + start ≤ text.length by omega)
  unfold spanIn
  rw [take_cutAt hat hstart, horigin.line_eq, horigin.offset_eq, horigin.column_eq]
  dsimp only at hplace ⊢
  split
  · next hbreaks =>
    rw [if_pos hbreaks] at hplace
    exact ⟨rfl, rfl, by rw [hplace], by rw [hplace]; rfl⟩
  · next hbreaks =>
    rw [if_neg hbreaks] at hplace
    refine ⟨rfl, rfl, by rw [hplace], ?_⟩
    rw [hplace, hlength]
    simp only [Text.lastLineLength, Option.some.injEq]
    omega

/-- The offsets of the value go to places of the source. -/
theorem mapOffset_le_length {lit : Literal} {value : Text} (h : lit.value = .ok value)
    (offset : Int) : lit.mapOffset offset ≤ lit.source.length := by
  have hbound := (lit.mapOffset_mem_content offset).2
  obtain ⟨units, _, hsource, _⟩ := value_eq_ok_iff.mp h
  have hlength := length_enclose lit (sources units)
  rw [← hsource] at hlength
  rw [contentEnd_of_enclose hsource] at hbound
  omega

/-- A range of the value is shown inside the literal, at source that is decoded to it and
after source that is decoded to what comes before it. -/
theorem covers_mapRange {lit : Literal} {text value : Text} {origin : Span}
    {place width start count : Nat} (horigin : origin.Covers text place width)
    (hat : Text.IsAt lit.source text place) (h : lit.value = .ok value) :
    ∃ offset length, (lit.spanIn origin (lit.mapRange start count).1
        (lit.mapRange start count).2).Covers text offset length ∧
      place ≤ offset ∧ offset + length ≤ place + lit.source.length ∧
      decode (lit.enclose (text.slice (place + lit.contentStart) offset)) =
        .ok (value.slice 0 start) ∧
      decode (lit.enclose (text.slice offset (offset + length))) =
        .ok (value.slice start (start + count)) := by
  have hsum : (start : Int) + max (count : Int) 0 = ((start + count : Nat) : Int) := by omega
  have horder := lit.mapOffset_mono (Int.ofNat_le.mpr (Nat.le_add_right start count))
  have hlast := mapOffset_le_length h (start + count : Nat)
  have hfront := decode_slice h (Nat.zero_le start)
  have hdecode := decode_slice h (Nat.le_add_right start count)
  rw [Int.natCast_zero, mapOffset_of_nonpos lit (Int.le_refl 0), ← hat.slice_eq (by omega)]
    at hfront
  rw [← hat.slice_eq hlast] at hdecode
  refine ⟨place + lit.mapOffset start, lit.mapOffset (start + count : Nat) - lit.mapOffset start,
    ?_, by omega, by omega, hfront, ?_⟩
  · rw [mapRange, hsum]
    exact covers_spanIn _ horigin hat (by omega)
  · have hstop : place + lit.mapOffset start + (lit.mapOffset (start + count : Nat) -
        lit.mapOffset start) = place + lit.mapOffset (start + count : Nat) := by omega
    rw [hstop, hdecode]

/-- The length of a span is the one that is asked for, and nothing else depends on it. -/
theorem spanIn_eq_with (lit : Literal) (origin : Span) (start length other : Int) :
    lit.spanIn origin start length =
      { lit.spanIn origin start other with length := some length } := by
  unfold spanIn
  dsimp only
  split
  · split <;> rfl
  · rfl

/-- The file of a span is that of the literal. -/
theorem file_spanIn (lit : Literal) (origin : Span) (start length : Int) :
    (lit.spanIn origin start length).file = origin.file := by
  unfold spanIn
  dsimp only
  split
  · split <;> rfl
  · rfl

/-- At the start of a literal the span is that of the literal with another length. -/
theorem spanIn_zero (lit : Literal) (text : Text) (offset : Nat) (width length : Int)
    (file : Option Text) :
    lit.spanIn ((LineIndex.ofText text).span offset width file) 0 length =
      (LineIndex.ofText text).span offset length file := by
  have hcut : Text.cutAt lit.source 0 = 0 := by simp [Text.cutAt]
  simp [spanIn, LineIndex.span, hcut]

/-- The place of a range of a literal is counted from the place of the literal and from the line
ends in front of the range. It is the place that the lines of the whole file give, in every
respect. -/
theorem spanIn_eq_span {lit : Literal} {text : Text} {offset start : Nat}
    (hsource : lit.source = text.slice offset (offset + lit.source.length))
    (hstart : start ≤ lit.source.length) (length : Int) (file : Option Text) :
    lit.spanIn ((LineIndex.ofText text).span offset lit.source.length file) start length =
      (LineIndex.ofText text).span (offset + start) length file := by
  rcases Text.eq_nil_or_isAt_of_eq_slice hsource with hempty | hat
  · obtain rfl : start = 0 := by simpa [hempty] using hstart
    exact spanIn_zero lit text offset _ length file
  · have horigin := LineIndex.covers_span text offset lit.source.length file
    have hcovers := covers_spanIn 0 horigin hat hstart
    have hplace := hcovers.eq_span (file_spanIn lit _ _ _)
    rw [spanIn_eq_with lit _ _ length (0 : Nat), hplace]
    rfl

/-- A literal over two lines that starts in the middle of the second line of a file: the range
behind its line end is on the third line, in the first column. -/
theorem spanIn_eq_span_crossing :
    let text : Text := "f(\n  @\"a\nbc\");"
    let lit := ofSource "@\"a\nbc\""
    lit.spanIn ((LineIndex.ofText text).span 5 7 none) (4 : Nat) 2 =
        (LineIndex.ofText text).span (5 + 4) 2 none ∧
      lit.spanIn ((LineIndex.ofText text).span 5 7 none) (4 : Nat) 2 =
        { line := some 3, column := some 1, length := some 2, offset := some 9 } := by
  intro text lit
  have hsource : lit.source = text.slice 5 (5 + lit.source.length) := by decide
  have hplace := spanIn_eq_span hsource (show 4 ≤ lit.source.length by decide) 2 none
  exact ⟨hplace, hplace.trans (by decide)⟩

end Literal

end TemplateLint
