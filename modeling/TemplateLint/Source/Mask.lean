import TemplateLint.Source.Lexical

/-!
# Masked source

Comments and the contents of literals are blanked out so that brackets, names and
separators can be found without looking into them. The source is first cut into
regions; the regions in order give the source again, and every region is masked to
as many code points as it has, with its line ends in place.
-/

namespace TemplateLint.Source

/-- A piece of source. -/
inductive Region
  /-- A code point outside comments and literals. -/
  | code (c : CodePoint)
  /-- A comment up to the end of its line. -/
  | lineComment (text : Text)
  /-- A comment between its marks. -/
  | blockComment (text : Text)
  /-- A literal: the opener up to the first quote, and the rest. -/
  | literal (opener body : Text)
  deriving DecidableEq

/-- Everything but a line end becomes a space. -/
def blank (c : CodePoint) : CodePoint :=
  if c = '\r' ∨ c = '\n' then c else ' '

/-- Whether a code point delimits literals. -/
def isQuote (c : CodePoint) : Bool :=
  c = '"' || c = '\''

/-- The body of a literal is blanked, but a quote at its end is kept. -/
def maskBody : Text → Text
  | [] => []
  | [c] => if isQuote c then [c] else [blank c]
  | c :: rest => blank c :: maskBody rest

/-- Masking keeps the length of a body. -/
theorem length_maskBody (body : Text) : (maskBody body).length = body.length := by
  fun_induction maskBody body with
  | case1 => rfl
  | case2 => rfl
  | case3 => rfl
  | case4 c rest _ ih => simp only [List.length_cons, ih]

namespace Region

/-- The source of a region. -/
def source : Region → Text
  | .code c => [c]
  | .lineComment text => text
  | .blockComment text => text
  | .literal opener body => opener ++ body

/-- The masked form of a region. -/
def masked : Region → Text
  | .code c => [c]
  | .lineComment text => text.map fun _ => CodePoint.ofChar ' '
  | .blockComment text => text.map blank
  | .literal opener body => opener ++ maskBody body

/-- Masking keeps the length of a region. -/
theorem length_masked (region : Region) : region.masked.length = region.source.length := by
  cases region with
  | code c => rfl
  | lineComment text => exact List.length_map _
  | blockComment text => exact List.length_map _
  | literal opener body => simp only [masked, source, List.length_append, length_maskBody]

end Region

/-- The literal at the front of a source: its opener and the length of its body. -/
def literalAt? (t : Text) : Option (Text × Nat) :=
  if Text.startsWith t "$@\"" ∨ Text.startsWith t "@$\"" then
    some (t.take 3, interpolatedLength true 0 false (t.drop 3))
  else if Text.startsWith t "$\"" then
    some (t.take 2, interpolatedLength false 0 false (t.drop 2))
  else if Text.startsWith t "@\"" then some (t.take 2, verbatimLength (t.drop 2))
  else
    match t with
    | [] => none
    | c :: rest => if isQuote c then some ([c], regularLength c rest) else none

/-- The opener of a literal stands at the front of the source and is not empty. -/
theorem isPrefix_of_literalAt? {t opener : Text} {length : Nat}
    (h : literalAt? t = some (opener, length)) : opener <+: t ∧ opener ≠ [] := by
  have hne : ∀ {n : Nat} {word : Text}, Text.startsWith t word = true → word ≠ [] → 0 < n →
      t.take n ≠ [] := by
    intro n word hstart hword hn hempty
    rcases List.take_eq_nil_iff.mp hempty with hzero | hnil
    · omega
    · rw [hnil] at hstart
      exact hword (List.prefix_nil.mp (List.isPrefixOf_iff_prefix.mp hstart))
  unfold literalAt? at h
  split at h
  · next hstart =>
    cases h
    refine ⟨List.take_prefix 3 t, ?_⟩
    rcases hstart with hstart | hstart
    · exact hne hstart (by decide) (by omega)
    · exact hne hstart (by decide) (by omega)
  · split at h
    · next hstart =>
      cases h
      exact ⟨List.take_prefix 2 t, hne hstart (by decide) (by omega)⟩
    · split at h
      · next hstart =>
        cases h
        exact ⟨List.take_prefix 2 t, hne hstart (by decide) (by omega)⟩
      · split at h
        · cases h
        · split at h
          · cases h
            simp
          · cases h

/-- The region at the front of a source. -/
def regionAt (c : CodePoint) (rest : Text) : Region :=
  if c = '/' ∧ rest.head? = some (CodePoint.ofChar '/') then
    .lineComment (c :: rest.takeWhile fun (d : CodePoint) => decide (d ≠ '\n'))
  else if c = '/' ∧ rest.head? = some (CodePoint.ofChar '*') then
    .blockComment (c :: rest.take (1 + (blockEnd? rest.tail).getD rest.tail.length))
  else
    match literalAt? (c :: rest) with
    | some (opener, length) =>
      .literal opener (((c :: rest).drop opener.length).take length)
    | none => .code c

/-- A region stands at the front of the source and is not empty. -/
theorem regionAt_source_isPrefix (c : CodePoint) (rest : Text) :
    (regionAt c rest).source <+: c :: rest ∧ (regionAt c rest).source ≠ [] := by
  unfold regionAt
  split
  · exact ⟨List.cons_prefix_cons.mpr ⟨rfl, List.takeWhile_prefix _⟩, List.cons_ne_nil _ _⟩
  · split
    · exact ⟨List.cons_prefix_cons.mpr ⟨rfl, List.take_prefix _ _⟩, List.cons_ne_nil _ _⟩
    · split
      · next opener length h =>
        obtain ⟨hopener, hne⟩ := isPrefix_of_literalAt? h
        refine ⟨?_, fun hempty => hne (List.append_eq_nil_iff.mp hempty).1⟩
        have happend := List.prefix_iff_eq_append.mp hopener
        have hbody := (List.prefix_append_right_inj opener).mpr
          (List.take_prefix length ((c :: rest).drop opener.length))
        rw [happend] at hbody
        exact hbody
      · exact ⟨List.cons_prefix_cons.mpr ⟨rfl, List.nil_prefix⟩, List.cons_ne_nil _ _⟩

/-- A region and what follows it give the source again. -/
theorem regionAt_source_append (c : CodePoint) (rest : Text) :
    (regionAt c rest).source ++ rest.drop ((regionAt c rest).source.length - 1) = c :: rest := by
  obtain ⟨hfront, hne⟩ := regionAt_source_isPrefix c rest
  have hlength := List.length_pos_iff.mpr hne
  have happend := List.prefix_iff_eq_append.mp hfront
  rw [← List.drop_succ_cons (a := c), Nat.sub_add_cancel hlength]
  exact happend

/-- The regions of a source in order. -/
def regions (t : Text) : List Region :=
  match t with
  | [] => []
  | c :: rest =>
    let region := regionAt c rest
    region :: regions (rest.drop (region.source.length - 1))
termination_by t.length
decreasing_by
  simp only [List.length_drop, List.length_cons]
  omega

/-- The regions in order give the source again. -/
theorem regions_source (t : Text) : (regions t).flatMap Region.source = t := by
  fun_induction regions t with
  | case1 => rfl
  | case2 c rest region ih =>
    rw [List.flatMap_cons, ih]
    exact regionAt_source_append c rest

/-- The source with comments and the contents of literals blanked out. -/
def mask (t : Text) : Text :=
  (regions t).flatMap Region.masked

/-- Masking keeps the length of a source. -/
theorem length_mask (t : Text) : (mask t).length = t.length := by
  have hlength : ∀ parts : List Region,
      (parts.flatMap Region.masked).length = (parts.flatMap Region.source).length := by
    intro parts
    induction parts with
    | nil => rfl
    | cons region later ih =>
      simp only [List.flatMap_cons, List.length_append, Region.length_masked, ih]
  rw [mask, hlength, regions_source]

end TemplateLint.Source
