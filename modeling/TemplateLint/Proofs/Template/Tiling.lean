import TemplateLint.Proofs.Template.Rendering
import TemplateLint.Proofs.Text.Part

/-!
# Segments tile the template

A parsed template is cut at its properties. Each property reaches from an opening brace to
the next closing one, and what stands in a gap in front of, between or behind the properties
is a text segment with its doubled braces collapsed, or no segment if the gap is empty. So
the template can be put together again from the gaps and the ranges of the properties.
-/

namespace TemplateLint.Template

variable {value t : Text} {start : Nat} {holes : List Property} {found : List Piece}

/-- The first closing brace behind an offset. -/
structure ClosesAt (t : Text) (start close : Nat) : Prop where
  /-- It stands behind the offset. -/
  lt : start < close
  /-- It is a closing brace. -/
  getElem?_eq : t[close]? = some (CodePoint.ofChar '}')
  /-- None comes earlier. -/
  first : ∀ offset, start < offset → offset < close → t[offset]? ≠ some (CodePoint.ofChar '}')

/-- A text without a closing brace ends at the first one that follows it. -/
theorem closesAt_append (front : Text) {body : Text} (hbody : CodePoint.ofChar '}' ∉ body)
    (c : CodePoint) (tail : Text) :
    ClosesAt (front ++ c :: (body ++ CodePoint.ofChar '}' :: tail)) front.length
      (front.length + 1 + body.length) := by
  have hbehind : ∀ k,
      (front ++ c :: (body ++ CodePoint.ofChar '}' :: tail))[front.length + 1 + k]? =
        (body ++ CodePoint.ofChar '}' :: tail)[k]? := by
    intro k
    have hoffset : front.length + 1 + k - front.length = k + 1 := by omega
    rw [List.getElem?_append_right (by omega), hoffset, List.getElem?_cons_succ]
  refine ⟨by omega, ?_, fun offset hstart hstop hclose => ?_⟩
  · rw [hbehind, List.getElem?_append_right (Nat.le_refl _), Nat.sub_self, List.getElem?_cons_zero]
  · obtain ⟨k, rfl⟩ := Nat.exists_eq_add_of_le hstart
    rw [Nat.succ_eq_add_one, hbehind, List.getElem?_append_left (by omega)] at hclose
    exact hbody (List.mem_of_getElem? hclose)

/-- The text that a gap stands for: from the left, two braces of one kind become one. -/
def collapse : Text → Text
  | c :: d :: rest =>
    if (c = '{' ∨ c = '}') ∧ d = c then c :: collapse rest else c :: collapse (d :: rest)
  | short => short

/-- The segments of a gap: one text, or none if the gap is empty. -/
def gapSegments (gap : Text) : List Segment :=
  if gap = [] then [] else [.text (collapse gap)]

/-- The gap between an offset and the first of some properties. -/
def firstGap (value : Text) (start : Nat) : List Property → Text
  | [] => value.drop start
  | hole :: _ => value.slice start hole.start

/-- The segments of a template from an offset on, told from its properties. -/
def tiling (value : Text) (start : Nat) : List Property → List Segment
  | [] => gapSegments (firstGap value start [])
  | hole :: later =>
    gapSegments (firstGap value start (hole :: later)) ++
      .property hole :: tiling value (hole.start + hole.length) later

/-- The gaps of a template from an offset on and the ranges of its properties, in turn. -/
def cuts (value : Text) (start : Nat) : List Property → List Text
  | [] => [firstGap value start []]
  | hole :: later =>
    firstGap value start (hole :: later) :: value.slice hole.start (hole.start + hole.length) ::
      cuts value (hole.start + hole.length) later

/-- Segments that tile a template. -/
structure Tiles (value : Text) (segments : List Segment) : Prop where
  /-- The ranges of the properties are disjoint and in order. -/
  ordered : (properties segments).Pairwise fun a b => a.start + a.length ≤ b.start
  /-- A property starts with an opening brace. -/
  opens : ∀ hole ∈ properties segments, value[hole.start]? = some (CodePoint.ofChar '{')
  /-- A property ends with the first closing brace behind its start. -/
  closes : ∀ hole ∈ properties segments,
    ∃ close, ClosesAt value hole.start close ∧ hole.start + hole.length = close + 1
  /-- The text segments are those of the gaps, each in its place. -/
  segments_eq : segments = tiling value 0 (properties segments)
  /-- The gaps and the properties make up the template. -/
  flatten_cuts : (cuts value 0 (properties segments)).flatten = value
  /-- No text is empty. -/
  text_ne_nil : ∀ content, .text content ∈ segments → content ≠ []
  /-- No two texts are neighbours. -/
  apart : segments.IsChain fun first second => ¬ (first.isText ∧ second.isText)

/-- A doubled brace in front of a gap is one brace. -/
theorem collapse_doubled {c : CodePoint} (hc : c = '{' ∨ c = '}') (gap : Text) :
    collapse (c :: c :: gap) = c :: collapse gap := by
  rw [collapse, if_pos ⟨hc, rfl⟩]

/-- A code point that stands for itself in front of a gap stays. -/
theorem collapse_single {c : CodePoint} {gap : Text} (hc : c ≠ '{')
    (halone : ¬ (c = '}' ∧ gap.head? = some (CodePoint.ofChar '}'))) :
    collapse (c :: gap) = c :: collapse gap := by
  cases gap with
  | nil => rfl
  | cons d gap =>
    have hpair : ¬ ((c = '{' ∨ c = '}') ∧ d = c) := by
      rintro ⟨hopen | hclose, rfl⟩
      · exact hc hopen
      · exact halone ⟨hclose, by rw [hclose, List.head?_cons]⟩
    rw [collapse, if_neg hpair]

/-- Something stays of a gap that is not empty. -/
theorem collapse_ne_nil {gap : Text} (h : gap ≠ []) : collapse gap ≠ [] := by
  fun_cases collapse gap with
  | case1 => exact List.cons_ne_nil _ _
  | case2 => exact List.cons_ne_nil _ _
  | case3 => exact h

/-- A gap that is not empty has a segment. -/
theorem gapSegments_cons (c : CodePoint) (gap : Text) :
    gapSegments (c :: gap) = [.text (collapse (c :: gap))] :=
  if_neg (List.cons_ne_nil c gap)

/-- The segments behind the first gap. -/
def afterGap (value : Text) : List Property → List Segment
  | [] => []
  | hole :: later => .property hole :: tiling value (hole.start + hole.length) later

/-- The first gap comes first. -/
theorem tiling_eq (value : Text) (start : Nat) (holes : List Property) :
    tiling value start holes =
      gapSegments (firstGap value start holes) ++ afterGap value holes := by
  cases holes with
  | nil => exact (List.append_nil _).symm
  | cons hole later => rfl

/-- What is read in front of a gap belongs to it. -/
theorem firstGap_append (front : Text) {rest : Text} (hvalue : value.drop start = front ++ rest)
    (hholes : ∀ hole ∈ holes, start + front.length ≤ hole.start) :
    firstGap value start holes = front ++ firstGap value (start + front.length) holes := by
  have hdrop : value.drop (start + front.length) = rest := by
    rw [← List.drop_drop, hvalue, List.drop_left]
  cases holes with
  | nil =>
    simp only [firstGap]
    rw [hdrop, hvalue]
  | cons hole later =>
    have hstart := hholes hole List.mem_cons_self
    have hwidth : hole.start - start = front.length + (hole.start - (start + front.length)) := by
      omega
    simp only [firstGap, Text.slice]
    rw [hdrop, hvalue, hwidth, List.take_length_add_append]

/-- A gap is what the template continues with. -/
theorem firstGap_isPrefix (value : Text) (start : Nat) (holes : List Property) :
    firstGap value start holes <+: value.drop start := by
  cases holes with
  | nil => exact List.prefix_refl _
  | cons hole later => exact List.take_prefix _ _

/-- A text goes to the property list of what follows it. -/
theorem properties_gather_char (c : CodePoint) (found : List Piece) :
    properties (gather (.char c :: found)) = properties (gather found) := by
  rw [gather]
  split
  · next content more hgather =>
    rw [hgather]
    rfl
  · rfl

/-- A code point joins the first gap, whether or not this has a segment already. -/
theorem gather_char {c : CodePoint} {gap : Text} {holes : List Property}
    (h : gather found = gapSegments gap ++ afterGap value holes) :
    gather (.char c :: found) = .text (c :: collapse gap) :: afterGap value holes := by
  rw [gather, h]
  by_cases hgap : gap = []
  · subst hgap
    cases holes <;> rfl
  · rw [gapSegments, if_neg hgap]
    rfl

/-- No property that is read later starts earlier. -/
theorem Reads.le_start (h : Reads start t found) :
    ∀ hole ∈ properties (gather found), start ≤ hole.start := by
  intro hole hmem
  exact (place_of_mem_pieces h.pieces_eq (mem_properties_gather.mp hmem)).1

/-- The properties that are read are disjoint and in order. -/
theorem Reads.pairwise (h : Reads start t found) :
    (properties (gather found)).Pairwise fun a b => a.start + a.length ≤ b.start := by
  induction h with
  | nil => exact List.Pairwise.nil
  | doubled _ _ ih =>
    rw [properties_gather_char]
    exact ih
  | single _ _ _ ih =>
    rw [properties_gather_char]
    exact ih
  | @hole start body tail hole found _ _ hread htail ih =>
    have hplace := place_of_readProperty hread
    refine List.pairwise_cons.mpr ⟨fun later hlater => ?_, ih⟩
    have hstart := htail.le_start later hlater
    omega

/-- A property that is read stands between braces in the text. -/
theorem Reads.exists_braces (h : Reads start t found) {hole : Property}
    (hmem : hole ∈ properties (gather found)) :
    ∃ front body tail, t = front ++ CodePoint.ofChar '{' :: (body ++ CodePoint.ofChar '}' :: tail) ∧
      hole.start = start + front.length ∧ hole.length = body.length + 2 ∧
      CodePoint.ofChar '}' ∉ body := by
  induction h with
  | nil => cases hmem
  | @doubled start c rest found _ _ ih =>
    rw [properties_gather_char] at hmem
    obtain ⟨front, body, tail, rfl, hstart, hrest⟩ := ih hmem
    refine ⟨c :: c :: front, body, tail, rfl, ?_, hrest⟩
    simp only [List.length_cons]
    omega
  | @single start c rest found _ _ _ ih =>
    rw [properties_gather_char] at hmem
    obtain ⟨front, body, tail, rfl, hstart, hrest⟩ := ih hmem
    refine ⟨c :: front, body, tail, rfl, ?_, hrest⟩
    simp only [List.length_cons]
    omega
  | @hole start body tail first found _ hbody hread _ ih =>
    have hplace := place_of_readProperty hread
    rcases List.mem_cons.mp hmem with rfl | hlater
    · exact ⟨[], body, tail, rfl, hplace.1, hplace.2, hbody⟩
    · obtain ⟨front, inner, later, rfl, hstart, hrest⟩ := ih hlater
      refine ⟨CodePoint.ofChar '{' :: (body ++ CodePoint.ofChar '}' :: front), inner, later, ?_, ?_,
        hrest⟩
      · simp only [List.cons_append, List.append_assoc]
      · simp only [List.length_cons, List.length_append]
        omega

/-- What is read is the tiling that its properties tell. The text is what the template
continues with at the offset, so that gaps are ranges of the template. -/
theorem Reads.gather_eq (h : Reads start t found) (hvalue : value.drop start = t) :
    gather found = tiling value start (properties (gather found)) := by
  induction h with
  | @nil start =>
    have hgap : firstGap value start [] = [] := hvalue
    rw [gather, properties, List.filterMap_nil, tiling, hgap]
    rfl
  | @doubled start c rest found hc hrest ih =>
    have hdrop : value.drop (start + 2) = rest := by
      rw [← List.drop_drop, hvalue]
      rfl
    have hgap : firstGap value start (properties (gather found)) =
        c :: c :: firstGap value (start + 2) (properties (gather found)) :=
      firstGap_append [c, c] hvalue hrest.le_start
    have hgather := gather_char (c := c) ((ih hdrop).trans (tiling_eq _ _ _))
    rw [properties_gather_char, hgather, tiling_eq, hgap, gapSegments_cons, collapse_doubled hc]
    rfl
  | @single start c rest found hc halone hrest ih =>
    have hdrop : value.drop (start + 1) = rest := by
      rw [← List.drop_drop, hvalue]
      rfl
    have hgap : firstGap value start (properties (gather found)) =
        c :: firstGap value (start + 1) (properties (gather found)) :=
      firstGap_append [c] hvalue hrest.le_start
    -- a brace right behind would be one of the gap, so it would be one of the text too
    have hbehind : ¬ (c = '}' ∧ (firstGap value (start + 1) (properties (gather found))).head? =
        some (CodePoint.ofChar '}')) := by
      rintro ⟨hclose, hhead⟩
      obtain ⟨later, hlater⟩ := firstGap_isPrefix value (start + 1) (properties (gather found))
      refine halone ⟨hclose, ?_⟩
      rw [← hdrop, ← hlater, List.head?_append, hhead, Option.some_or]
    have hgather := gather_char (c := c) ((ih hdrop).trans (tiling_eq _ _ _))
    rw [properties_gather_char, hgather, tiling_eq, hgap, gapSegments_cons,
      collapse_single hc hbehind]
    rfl
  | @hole start body tail hole found _ _ hread _ ih =>
    obtain ⟨hstart, hlength⟩ := place_of_readProperty hread
    have hdrop : value.drop (start + (body.length + 2)) = tail := by
      have hbehind : (CodePoint.ofChar '{' :: (body ++ CodePoint.ofChar '}' :: tail)).drop
          (body.length + 2) = tail := by
        rw [List.drop_succ_cons, List.drop_length_add_append, List.drop_succ_cons, List.drop_zero]
      rw [← List.drop_drop, hvalue, hbehind]
    have hgap : value.slice start start = [] := by
      rw [Text.slice, Nat.sub_self, List.take_zero]
    have hcons : properties (gather (.property hole :: found)) =
        hole :: properties (gather found) := rfl
    rw [hcons, tiling, firstGap, hstart, hlength, hgap, ← ih hdrop]
    rfl

/-- Gaps and properties in order make up what the template continues with. -/
theorem flatten_cuts_eq (hstart : ∀ hole ∈ holes, start ≤ hole.start)
    (hordered : holes.Pairwise fun a b => a.start + a.length ≤ b.start) :
    (cuts value start holes).flatten = value.drop start := by
  induction holes generalizing start with
  | nil => exact List.append_nil _
  | cons hole later ih =>
    obtain ⟨hlater, hordered⟩ := List.pairwise_cons.mp hordered
    have hgap := hstart hole List.mem_cons_self
    have hhole : value.slice start hole.start ++ value.slice hole.start (hole.start + hole.length) =
        value.slice start (hole.start + hole.length) :=
      Text.slice_append_slice hgap (by omega)
    have hrest : value.slice start (hole.start + hole.length) ++
        value.drop (hole.start + hole.length) = value.drop start := by
      have hdrop : value.drop (hole.start + hole.length) =
          (value.drop start).drop (hole.start + hole.length - start) := by
        rw [List.drop_drop, Nat.add_sub_cancel' (by omega)]
      rw [Text.slice, hdrop, List.take_append_drop]
    rw [cuts, List.flatten_cons, List.flatten_cons, ih hlater hordered, ← List.append_assoc,
      firstGap, hhole, hrest]

/-- The text of a gap is not empty. -/
theorem ne_nil_of_mem_gapSegments {gap content : Text} (h : .text content ∈ gapSegments gap) :
    content ≠ [] := by
  rw [gapSegments] at h
  split at h
  · cases h
  · next hgap =>
    cases List.mem_singleton.mp h
    exact collapse_ne_nil hgap

/-- No text of a tiling is empty. -/
theorem ne_nil_of_mem_tiling {content : Text} (h : .text content ∈ tiling value start holes) :
    content ≠ [] := by
  induction holes generalizing start with
  | nil => exact ne_nil_of_mem_gapSegments h
  | cons hole later ih =>
    rcases List.mem_append.mp h with hgap | hrest
    · exact ne_nil_of_mem_gapSegments hgap
    · rcases List.mem_cons.mp hrest with hhole | hlater
      · cases hhole
      · exact ih hlater

/-- In a tiling no two texts are neighbours. -/
theorem isChain_tiling (value : Text) (start : Nat) (holes : List Property) :
    (tiling value start holes).IsChain fun first second => ¬ (first.isText ∧ second.isText) := by
  induction holes generalizing start with
  | nil =>
    rw [tiling, gapSegments]
    split
    · exact List.isChain_nil
    · exact List.isChain_singleton _
  | cons hole later ih =>
    have hlater : (Segment.property hole ::
        tiling value (hole.start + hole.length) later).IsChain fun first second =>
          ¬ (first.isText ∧ second.isText) :=
      List.isChain_cons.mpr ⟨fun _ _ hboth => Bool.noConfusion hboth.1, ih _⟩
    rw [tiling, gapSegments]
    split
    · exact hlater
    · exact List.isChain_cons_cons.mpr ⟨fun hboth => Bool.noConfusion hboth.2, hlater⟩

/-- The segments of a template tile it. -/
theorem parse_tiles_template {value : Text} {segments : List Segment}
    (h : parse value = .ok segments) : Tiles value segments := by
  obtain ⟨found, hfound, rfl⟩ := Outcome.map_eq_ok h
  have hreads := pieces_eq_ok_iff.mp hfound
  have htiling : gather found = tiling value 0 (properties (gather found)) :=
    hreads.gather_eq List.drop_zero
  refine ⟨hreads.pairwise, fun hole hmem => ?_, fun hole hmem => ?_, htiling, ?_, ?_, ?_⟩
  · obtain ⟨front, body, tail, rfl, hstart, _, _⟩ := hreads.exists_braces hmem
    rw [hstart, Nat.zero_add, List.getElem?_append_right (Nat.le_refl _), Nat.sub_self,
      List.getElem?_cons_zero]
  · obtain ⟨front, body, tail, rfl, hstart, hlength, hbody⟩ := hreads.exists_braces hmem
    have hcloses := closesAt_append front hbody (CodePoint.ofChar '{') tail
    rw [Nat.zero_add] at hstart
    exact ⟨_, hstart ▸ hcloses, by omega⟩
  · exact flatten_cuts_eq hreads.le_start hreads.pairwise
  · intro content hcontent
    rw [htiling] at hcontent
    exact ne_nil_of_mem_tiling hcontent
  · rw [htiling]
    exact isChain_tiling _ _ _

/-- Braces of texts touch those of properties on both sides, and a closing brace is left over
at the end. -/
theorem parse_tiles_template_touching :
    let value : Text := "\x7b\x7b\x7bA\x7d\x7d\x7d\x7bB:\x7b\x7d\x7d"
    ∃ segments, parse value = .ok segments ∧ segments.length = 5 ∧ Tiles value segments := by
  intro value
  have hcount : (parse value).toOption.map List.length = some 5 := by decide +kernel
  cases hparse : parse value with
  | error rejection =>
    rw [hparse] at hcount
    cases hcount
  | ok segments =>
    rw [hparse] at hcount
    exact ⟨segments, rfl, Option.some.inj hcount, parse_tiles_template hparse⟩

end TemplateLint.Template
