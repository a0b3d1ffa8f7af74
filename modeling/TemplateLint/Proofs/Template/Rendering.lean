import Mathlib.Data.List.Chain
import TemplateLint.Proofs.Template.Reading
import TemplateLint.Proofs.Template.Written

/-!
# Rendering templates

Segments are written out as a template: the braces of a text are doubled, and a property
stands in single braces. The parser gives back the segments from which a template was
written, each property with its place in the template. A brace of a text may touch that
of a property on either side, and since the parser pairs braces from the left, it finds
the boundary again.
-/

namespace TemplateLint

namespace Text

/-- The digits of a number, one by one. -/
theorem ofNat_eq_map_toDigits (n : Nat) : ofNat n = (Nat.toDigits 10 n).map CodePoint.ofChar := by
  rw [ofNat, ofString, Nat.toList_repr]

/-- A number is read back from its digits. -/
theorem decimalValue_ofNat (n : Nat) : decimalValue (ofNat n) = n := by
  rw [ofNat_eq_map_toDigits, decimalValue, List.foldl_map]
  exact Nat.ofDigitChars_ten_toDigits

/-- Every number has a digit. -/
theorem ofNat_ne_nil (n : Nat) : ofNat n ≠ [] := by
  rw [ofNat_eq_map_toDigits]
  exact fun h => Nat.toDigits_ne_nil (List.map_eq_nil_iff.mp h)

/-- The digits of a number are digits. -/
theorem isAsciiDigit_of_mem_ofNat {n : Nat} {c : CodePoint} (h : c ∈ ofNat n) : c.isAsciiDigit := by
  rw [ofNat_eq_map_toDigits] at h
  obtain ⟨d, hd, rfl⟩ := List.mem_map.mp h
  have hdigit := Nat.isDigit_of_mem_toDigits (by decide) (by decide) hd
  simp only [Char.isDigit, Bool.and_eq_true, decide_eq_true_eq, ge_iff_le,
    UInt32.le_iff_toNat_le] at hdigit
  exact Bool.and_eq_true_iff.mpr ⟨decide_eq_true hdigit.1, decide_eq_true hdigit.2⟩

end Text

namespace Template

open Outcome

/-- A text with its braces doubled. -/
def escapeBraces (content : Text) : Text :=
  content.flatMap fun (c : CodePoint) => if c = '{' ∨ c = '}' then [c, c] else [c]

/-- The parts of a property as they are written; a width is written in decimal. -/
def Property.written (hole : Property) : Written where
  capture := hole.capture
  name := hole.name
  alignment := hole.alignment.map fun alignment => (alignment.isLeft, Text.ofNat alignment.value)
  format := hole.format

/-- A property in its braces. -/
def Property.render (hole : Property) : Text :=
  braced hole.written.text

/-- A segment as it is written. -/
def Segment.render : Segment → Text
  | .text content => escapeBraces content
  | .property hole => hole.render

/-- A template written from its segments. -/
def render (segments : List Segment) : Text :=
  segments.flatMap Segment.render

/-- A property that can be written and read again. Its place is not looked at. -/
structure Property.Printable (hole : Property) : Prop where
  /-- There is a name. -/
  name_ne_nil : hole.name ≠ []
  /-- The name holds letters, digits and underscores. -/
  name_isWord : ∀ c ∈ hole.name, c.isAsciiWord
  /-- The property is positional exactly when its name consists of digits. -/
  index_eq : hole.index =
    if ∀ c ∈ hole.name, c.isAsciiDigit then some hole.name.decimalValue else none
  /-- The digits of an index can be converted. -/
  name_length : hole.index ≠ none → hole.name.length ≤ Text.digitLimit
  /-- An alignment is positive. -/
  alignment_pos : ∀ alignment, hole.alignment = some alignment → 0 < alignment.value
  /-- The digits of an alignment can be converted. -/
  alignment_length : ∀ alignment, hole.alignment = some alignment →
    (Text.ofNat alignment.value).length ≤ Text.digitLimit
  /-- A format holds what a format may hold. -/
  format_isFormat : ∀ format, hole.format = some format → ∀ c ∈ format, IsFormatPoint c

/-- Whether a segment is a text. -/
def Segment.isText : Segment → Bool
  | .text _ => true
  | .property _ => false

/-- A segment that can be written and read again. -/
def Segment.Printable : Segment → Prop
  | .text content => content ≠ []
  | .property hole => hole.Printable

/-- Segments that can be written and read again. -/
structure Printable (segments : List Segment) : Prop where
  /-- Each of them can. -/
  each : ∀ segment ∈ segments, segment.Printable
  /-- No two texts are neighbours. -/
  apart : segments.IsChain fun first second => ¬ (first.isText ∧ second.isText)

/-- A segment at an offset of a template, where a property is as long as it is written. -/
def Segment.placedAt (start : Nat) : Segment → Segment
  | .text content => .text content
  | .property hole => .property { hole with start, length := hole.render.length }

/-- What is written of a property is valid. -/
theorem Property.Printable.written_valid {hole : Property} (h : hole.Printable) :
    hole.written.Valid where
  name_ne_nil := h.name_ne_nil
  name_isWord := h.name_isWord
  alignment_isNumeral := by
    intro part hpart
    obtain ⟨alignment, hsome, rfl⟩ := Option.map_eq_some_iff.mp hpart
    have hpos := h.alignment_pos alignment hsome
    refine ⟨Text.ofNat_ne_nil _, fun c hc => Text.isAsciiDigit_of_mem_ofNat hc, ?_⟩
    rw [Text.decimalValue_ofNat]
    omega
  format_isFormat := h.format_isFormat

/-- What is written of a property has short numbers. -/
theorem Property.Printable.written_convertible {hole : Property} (h : hole.Printable) :
    hole.written.Convertible where
  name_length := by
    intro hdigits
    refine h.name_length ?_
    rw [h.index_eq, if_pos (show ∀ c ∈ hole.name, c.isAsciiDigit from hdigits)]
    exact Option.some_ne_none _
  alignment_length := by
    intro part hpart
    obtain ⟨alignment, hsome, rfl⟩ := Option.map_eq_some_iff.mp hpart
    exact h.alignment_length alignment hsome

/-- Two braces come on top of what is written between them. -/
theorem Property.length_written (hole : Property) :
    hole.written.text.length + 2 = hole.render.length := by
  rw [Property.render, braced, List.length_cons, List.length_append]
  rfl

/-- What is written of a property is read as the property at its place. -/
theorem Property.Printable.written_hole {hole : Property} (h : hole.Printable) (start : Nat) :
    hole.written.hole start = { hole with start, length := hole.render.length } := by
  have hindex : (if hole.name.all CodePoint.isAsciiDigit then some hole.name.decimalValue
      else none) = hole.index := by
    rw [h.index_eq]
    simp only [List.all_eq_true]
  have halign : (hole.written.alignment.map fun part =>
      (⟨part.2.decimalValue, part.1⟩ : Alignment)) = hole.alignment := by
    cases hsome : hole.alignment with
    | none => rw [Property.written, hsome]; rfl
    | some alignment =>
      rw [Property.written, hsome]
      simp only [Option.map_some, Text.decimalValue_ofNat]
  unfold Written.hole
  rw [halign, hole.length_written]
  exact congrArg (fun index =>
    ({ hole with index, start, length := hole.render.length } : Property)) hindex

/-- The first code point of a text comes first. -/
theorem escapeBraces_cons (c : CodePoint) (content : Text) :
    escapeBraces (c :: content) =
      (if c = '{' ∨ c = '}' then [c, c] else [c]) ++ escapeBraces content :=
  List.flatMap_cons

/-- A written property is read with whatever follows it: its text has no closing brace, so
the next one is its own. -/
theorem pieces_braced (start : Nat) {w : Written} (h : w.Valid) (hconv : w.Convertible)
    (rest : Text) :
    pieces start (braced w.text ++ rest) =
      (pieces (start + (w.text.length + 2)) rest).map (.property (w.hole start) :: ·) := by
  have hhead := h.legible.head_text []
  rw [List.append_nil] at hhead
  rw [braced_append]
  exact pieces_hole hhead (Written.brace_not_mem_text h) (readProperty_text h hconv start) rest

/-- A text with doubled braces is read as its code points with whatever follows it. -/
theorem pieces_escapeBraces (start : Nat) (content rest : Text) :
    pieces start (escapeBraces content ++ rest) =
      (pieces (start + (escapeBraces content).length) rest).map (content.map Piece.char ++ ·) := by
  induction content generalizing start with
  | nil => exact (congrFun Except.map_id (pieces start rest)).symm
  | cons c content ih =>
    rw [escapeBraces_cons, List.append_assoc, List.length_append]
    by_cases hc : c = '{' ∨ c = '}'
    · rw [if_pos hc, List.cons_append, List.singleton_append, pieces_doubled hc, ih, map_map,
        ← Nat.add_assoc]
      rfl
    · have hopen : c ≠ '{' := fun heq => hc (.inl heq)
      have halone : ¬ (c = '}' ∧
          (escapeBraces content ++ rest).head? = some (CodePoint.ofChar '}')) :=
        fun hpair => hc (.inr hpair.1)
      rw [if_neg hc, List.singleton_append, pieces_single hopen halone, ih, map_map,
        ← Nat.add_assoc]
      rfl

/-- The first segment is written first. -/
theorem render_cons (segment : Segment) (rest : List Segment) :
    render (segment :: rest) = segment.render ++ render rest :=
  List.flatMap_cons

/-- The pieces of a segment at an offset of a template. -/
def Segment.pieces (start : Nat) : Segment → List Piece
  | .text content => content.map Piece.char
  | .property hole => [.property { hole with start, length := hole.render.length }]

/-- A written segment is read as its pieces with whatever follows it. -/
theorem pieces_segment {segment : Segment} (h : segment.Printable) (start : Nat) (rest : Text) :
    Template.pieces start (segment.render ++ rest) =
      (Template.pieces (start + segment.render.length) rest).map (segment.pieces start ++ ·) := by
  cases segment with
  | text content => exact pieces_escapeBraces start content rest
  | property hole =>
    have hpieces := pieces_braced start (Property.Printable.written_valid h)
      h.written_convertible rest
    rw [h.written_hole, Property.length_written] at hpieces
    exact hpieces

/-- Code points that no text follows are gathered into one text. -/
theorem gather_chars {content : Text} (hne : content ≠ []) {later : List Piece}
    (hlater : ∀ more rest, gather later ≠ .text more :: rest) :
    gather (content.map Piece.char ++ later) = .text content :: gather later := by
  induction content with
  | nil => exact absurd rfl hne
  | cons c content ih =>
    rw [List.map_cons, List.cons_append, gather]
    cases content with
    | nil =>
      rw [List.map_nil, List.nil_append]
      split
      · next more rest h => exact absurd h (hlater more rest)
      · rfl
    | cons d content => rw [ih (List.cons_ne_nil _ _)]

/-- The pieces of a segment are gathered into the segment, if no text follows a text. -/
theorem gather_segment {segment : Segment} (h : segment.Printable) (start : Nat)
    {later : List Piece}
    (hlater : segment.isText → ∀ more rest, gather later ≠ .text more :: rest) :
    gather (segment.pieces start ++ later) = segment.placedAt start :: gather later := by
  cases segment with
  | text content => exact gather_chars h (hlater rfl)
  | property hole => rfl

/-- Written segments are read as pieces that are gathered into the segments, each at the
offset where its own text starts. -/
theorem pieces_render {segments : List Segment} (h : Printable segments) (start : Nat) :
    ∃ found, Template.pieces start (render segments) = .ok found ∧
      gather found = segments.mapIdx fun i segment =>
        segment.placedAt (start + (render (segments.take i)).length) := by
  induction segments generalizing start with
  | nil => exact ⟨[], by rw [render, List.flatMap_nil, Template.pieces], rfl⟩
  | cons segment rest ih =>
    obtain ⟨hfirst, hrest⟩ := List.forall_mem_cons.mp h.each
    obtain ⟨found, hfound, hgather⟩ := ih ⟨hrest, h.apart.of_cons⟩ (start + segment.render.length)
    refine ⟨segment.pieces start ++ found, ?_, ?_⟩
    · rw [render_cons, pieces_segment hfirst, hfound]
      rfl
    · have hlater : segment.isText → ∀ more later, gather found ≠ .text more :: later := by
        intro htext more later heq
        rw [hgather] at heq
        cases rest with
        | nil => cases heq
        | cons next rest =>
          have hnext := (List.isChain_cons_cons.mp h.apart).1
          rw [List.mapIdx_cons] at heq
          cases next with
          | text content => exact hnext ⟨htext, rfl⟩
          | property hole => cases heq
      rw [gather_segment hfirst start hlater, hgather, List.mapIdx_cons]
      simp only [List.take_zero, List.take_succ_cons, render_cons, List.length_append,
        Nat.add_assoc]
      rfl

/-- Writing segments and parsing the template gives the same segments in the same order,
each property with its offset and length in the template. -/
theorem parse_render_placed {segments : List Segment} (h : Printable segments) :
    parse (render segments) = .ok (segments.mapIdx fun i segment =>
      segment.placedAt (render (segments.take i)).length) := by
  obtain ⟨found, hfound, hgather⟩ := pieces_render h 0
  simp only [Nat.zero_add] at hgather
  rw [parse, hfound, ← hgather]
  rfl

/-- Braces of texts touch those of properties on both sides, a format holds the marks of a
property, and an index has leading zeros. -/
theorem parse_render_placed_touching :
    let named : Property :=
      { name := "Name", index := none, capture := .destructure, alignment := some ⟨5, true⟩
        format := some (Text.ofString "0,:"), start := 0, length := 0 }
    let positional : Property :=
      { name := "007", index := some 7, capture := .plain, alignment := none, format := none
        start := 0, length := 0 }
    let segments : List Segment :=
      [.text "x\x7b", .property named, .text "\x7d", .property positional]
    Printable segments ∧
      parse (render segments) = .ok (segments.mapIdx fun i segment =>
        segment.placedAt (render (segments.take i)).length) := by
  intro named positional segments
  have hnamed : named.Printable := by
    refine ⟨by decide, by decide, by decide, by decide, ?_, ?_, ?_⟩
    · rintro alignment ⟨⟩
      decide
    · rintro alignment ⟨⟩
      decide
    · rintro format ⟨⟩
      decide +kernel
  have hpositional : positional.Printable :=
    ⟨by decide, by decide, by decide, by decide, nofun, nofun, nofun⟩
  have h : Printable segments := by
    refine ⟨?_, by decide⟩
    simp only [segments, List.forall_mem_cons]
    exact ⟨List.cons_ne_nil _ _, hnamed, List.cons_ne_nil _ _, hpositional,
      List.forall_mem_nil _⟩
  exact ⟨h, parse_render_placed h⟩

end Template

end TemplateLint
