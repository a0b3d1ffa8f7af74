import TemplateLint.Proofs.Source.Fitting

/-!
# Regions one after the other

The regions of a source fit in front of each other, and regions that fit in front of each
other are the regions of their source. Main statements: blank regions that do not end with
an open comment fit in front of everything, regions that end with a closed one fit in front
of everything that can follow an argument, and a code point of the masked source that is
neither blank nor part of a literal is a region of its own.
-/

namespace TemplateLint.Source

/-- The regions fit in front of each other, and the last one in front of a text. -/
def Parsed : List Region → Text → Prop
  | [], _ => True
  | region :: later, next =>
    Fits region (later.flatMap Region.source ++ next) ∧ Parsed later next

variable {before later : List Region} {region : Region} {next behind : Text} {c d : CodePoint}

/-- Regions are parsed in two parts. -/
theorem parsed_append : Parsed (before ++ later) next ↔
    Parsed before (later.flatMap Region.source ++ next) ∧ Parsed later next := by
  induction before with
  | nil => exact ⟨fun h => ⟨trivial, h⟩, fun h => h.2⟩
  | cons region before ih =>
    rw [List.cons_append, Parsed, Parsed, ih, List.flatMap_append, List.append_assoc, and_assoc]

/-- The regions of a source fit in front of each other. -/
theorem parsed_regions (t : Text) : Parsed (regions t) [] := by
  fun_induction regions t with
  | case1 => trivial
  | case2 c rest region ih =>
    refine ⟨?_, ih⟩
    rw [List.append_nil, regions_source, Fits, regionAt_source_append]
    rfl

namespace Parsed

/-- Regions that fit in front of each other are the regions of their source. -/
theorem regions_eq (h : Parsed before next) :
    regions (before.flatMap Region.source ++ next) = before ++ regions next := by
  induction before with
  | nil => rfl
  | cons region before ih =>
    rw [List.flatMap_cons, List.append_assoc, h.1.regions_eq, ih h.2, List.cons_append]

/-- Regions that fit in front of each other up to the end are all regions of their source. -/
theorem regions_source_eq (h : Parsed before []) :
    regions (before.flatMap Region.source) = before := by
  have hregions := h.regions_eq
  rw [List.append_nil, regions, List.append_nil] at hregions
  exact hregions

/-- Every one of the regions fits somewhere. -/
theorem fits_of_mem (h : Parsed before next) (hregion : region ∈ before) :
    ∃ behind, Fits region behind := by
  obtain ⟨front, back, rfl⟩ := List.append_of_mem hregion
  exact ⟨_, (parsed_append.mp h).2.1⟩

/-- Regions that are there have a source. -/
theorem exists_cons (h : Parsed (region :: before) next) :
    ∃ first rest, (region :: before).flatMap Region.source = first :: rest := by
  obtain ⟨first, rest, hsource, _⟩ := h.1.exists_cons
  exact ⟨first, _, by rw [List.flatMap_cons, hsource, List.cons_append]⟩

end Parsed

/-- A region fits in front of a text whose front is the same and whose back does not begin
with a new quote. -/
theorem Fits.of_append {front : Text} (h : Fits region (c :: front ++ next))
    (hquote : behind.head? = some (CodePoint.ofChar '"') →
      next.head? = some (CodePoint.ofChar '"')) : Fits region (c :: front ++ behind) := by
  refine Fits.of_same h fun _ _ => ?_
  cases front with
  | nil => exact hquote
  | cons d front => exact id

namespace Parsed

/-- Regions fit in front of every text that does not begin with a new quote, if the last one
does. -/
theorem of_last (h : Parsed before next)
    (hquote : behind.head? = some (CodePoint.ofChar '"') →
      next.head? = some (CodePoint.ofChar '"'))
    (hlast : ∀ region, before.getLast? = some region → Fits region next → Fits region behind) :
    Parsed before behind := by
  induction before with
  | nil => trivial
  | cons region before ih =>
    cases before with
    | nil => exact ⟨hlast region rfl h.1, trivial⟩
    | cons second before =>
      refine ⟨?_, ih h.2 fun last hlater => hlast last ?_⟩
      · obtain ⟨first, rest, hsource⟩ := h.2.exists_cons
        have hfits := h.1
        rw [hsource] at hfits ⊢
        exact hfits.of_append hquote
      · rw [List.getLast?_cons_cons]
        exact hlater

/-- Regions fit in front of every text that starts with the same code point, unless a literal
comes about behind a sign. -/
theorem of_head (h : Parsed before (c :: next))
    (hquote : isMark c = true → c ≠ '"' → behind.head? = some (CodePoint.ofChar '"') →
      next.head? = some (CodePoint.ofChar '"')) : Parsed before (c :: behind) :=
  h.of_last id fun _ _ hfits => hfits.of_same hquote

/-- Regions fit in front of every text that starts with the same code point, if this is no
mark. -/
theorem of_same (h : Parsed before (c :: next)) (hc : isMark c = false) (behind : Text) :
    Parsed before (c :: behind) :=
  h.of_head fun hmark => by cases hmark.symm.trans hc

/-- Regions that are parsed somewhere are parsed in front of nothing. -/
theorem nil (h : Parsed before next) : Parsed before [] :=
  h.of_last nofun fun _ _ hfits => hfits.nil

/-- Regions that are closed and end with one that is not blank and no slash fit in front of
every text that does not start with a mark. -/
theorem of_isClosed (h : Parsed before next) (hclosed : ∀ region ∈ before, region.IsClosed)
    (hlast : ∀ region, before.getLast? = some region →
      region.isBlank = false ∧ region ≠ .code '/') (hd : isMark d = false) (behind : Text) :
    Parsed before (d :: behind) := by
  refine h.of_last (fun hquote => ?_) fun region hregion hfits => ?_
  · cases hquote
    cases hd
  · obtain ⟨hblank, hslash⟩ := hlast region hregion
    exact hfits.of_isClosed (hclosed region (List.mem_of_getLast? hregion)) hblank hslash hd

end Parsed

/-- A code point that starts neither a comment nor a literal fits in front of everything. -/
theorem Fits.code (hslash : c ≠ '/') (hquote : isQuote c = false) (hmark : isMark c = false)
    (next : Text) : Fits (.code c) next := by
  have hne : ∀ d : CodePoint, isMark d = true → c ≠ d := by
    rintro d hd rfl
    cases hd.symm.trans hmark
  refine Fits.code_iff.mpr ⟨fun h => hslash h.1, fun h => hslash h.1, ?_⟩
  rw [Opens.literalAt?_cons (hne _ rfl) (hne _ rfl), hquote]
  rfl

/-- A blank starts neither a comment nor a literal. -/
theorem not_mark_of_isBlank (hc : c.isBlank = true) :
    c ≠ '/' ∧ isQuote c = false ∧ isMark c = false := by
  have hne : ∀ d : CodePoint, d.isBlank = false → c ≠ d := by
    rintro d hd rfl
    cases hc.symm.trans hd
  refine ⟨hne _ rfl, ?_, ?_⟩
  · rw [isQuote, decide_eq_false (hne _ rfl), decide_eq_false (hne _ rfl)]
    rfl
  · rw [isMark, decide_eq_false (hne _ rfl), decide_eq_false (hne _ rfl),
      decide_eq_false (hne _ rfl)]
    rfl

namespace Parsed

/-- Blank regions in front of a code point other than a line end fit in front of everything. -/
theorem of_isBlank (h : Parsed before (c :: next)) (hc : c ≠ '\n')
    (hblank : ∀ region ∈ before, region.isBlank = true) (behind : Text) :
    Parsed before behind := by
  induction before with
  | nil => trivial
  | cons region before ih =>
    obtain ⟨hregion, hbefore⟩ := List.forall_mem_cons.mp hblank
    refine ⟨?_, ih h.2 hbefore⟩
    have hfits := h.1
    cases region with
    | code b =>
      obtain ⟨hslash, hquote, hmark⟩ := not_mark_of_isBlank hregion
      exact Fits.code hslash hquote hmark _
    | lineComment text =>
      -- the line end that closes the comment is a region behind it
      obtain ⟨hbody, hline⟩ := Fits.lineComment_iff.mp hfits
      cases before with
      | nil => exact absurd (hline c rfl) hc
      | cons second before =>
        obtain ⟨first, rest, hsource⟩ := h.2.exists_cons
        rw [hsource] at hline ⊢
        exact Fits.lineComment_iff.mpr ⟨hbody, hline⟩
    | blockComment text =>
      cases before with
      | nil => exact Fits.of_blockComment hfits _
      | cons second before =>
        obtain ⟨first, rest, hsource⟩ := h.2.exists_cons
        rw [hsource] at hfits
        exact Fits.of_blockComment hfits _
    | literal opener body => cases hregion

/-- The source of blank regions does not start with a mark. -/
theorem exists_not_mark (h : Parsed before (c :: next)) (hc : isMark c = false)
    (hblank : ∀ region ∈ before, region.isBlank = true) :
    ∃ first rest, before.flatMap Region.source ++ c :: next = first :: rest ∧
      isMark first = false := by
  cases before with
  | nil => exact ⟨c, next, rfl, hc⟩
  | cons region before =>
    obtain ⟨first, rest, hsource, hregion⟩ := h.1.exists_cons
    refine ⟨first, rest ++ before.flatMap Region.source ++ c :: next, ?_, ?_⟩
    · rw [List.flatMap_cons, hsource, List.cons_append, List.cons_append]
    · have hfront := isFront_regionAt first (rest ++ (before.flatMap Region.source ++ c :: next))
      rw [hregion] at hfront
      have hfirst := hblank region List.mem_cons_self
      cases hfront with
      | lineComment hslash => rw [hslash]; rfl
      | blockComment hslash => rw [hslash]; rfl
      | literal => cases hfirst
      | code => exact (not_mark_of_isBlank hfirst).2.2

end Parsed

end TemplateLint.Source
