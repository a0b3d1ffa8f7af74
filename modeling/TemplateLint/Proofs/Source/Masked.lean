import TemplateLint.Proofs.Source.Parsed

/-!
# Masked regions

Masking leaves the first code point of a region that is not blank as it is, and the last one
too if the region is closed; a blank region is masked to blanks. Main statement: a code point
of the masked source that is neither blank nor part of an opener nor a quote is a region of
its own, and cuts the regions where it cuts the masked source.
-/

namespace TemplateLint.Source

variable {region : Region} {next : Text} {c : CodePoint}

/-- A code point is blanked to a blank. -/
theorem isBlank_blank (c : CodePoint) : (blank c).isBlank = true := by
  unfold blank
  split
  · next hline =>
    rcases hline with rfl | rfl
    · rfl
    · rfl
  · rfl

/-- A blank region is masked to blanks. -/
theorem isBlank_of_mem_masked (h : region.isBlank = true) (hc : c ∈ region.masked) :
    c.isBlank = true := by
  cases region with
  | code b =>
    cases List.mem_singleton.mp hc
    exact h
  | lineComment text =>
    obtain ⟨_, _, rfl⟩ := List.mem_map.mp hc
    rfl
  | blockComment text =>
    obtain ⟨_, _, rfl⟩ := List.mem_map.mp hc
    exact isBlank_blank _
  | literal => cases h

/-- Blank regions are masked to blanks. -/
theorem isBlank_of_mem_flatMap_masked {regions : List Region}
    (h : ∀ region ∈ regions, region.isBlank = true) :
    ∀ c ∈ regions.flatMap Region.masked, c.isBlank = true := by
  intro c hc
  obtain ⟨region, hregion, hc⟩ := List.mem_flatMap.mp hc
  exact isBlank_of_mem_masked (h region hregion) hc

/-- A body is masked to blanks and a quote. -/
theorem isBlank_or_isQuote_of_mem_maskBody {body : Text} (hc : c ∈ maskBody body) :
    c.isBlank = true ∨ isQuote c = true := by
  fun_induction maskBody body with
  | case1 => cases hc
  | case2 b hquote =>
    cases List.mem_singleton.mp hc
    exact .inr hquote
  | case3 b =>
    cases List.mem_singleton.mp hc
    exact .inl (isBlank_blank b)
  | case4 b rest _ ih =>
    rcases List.mem_cons.mp hc with rfl | hc
    · exact .inl (isBlank_blank b)
    · exact ih hc

/-- A quote at the end of a body is kept. -/
theorem getLast?_maskBody {body : Text} (hlast : body.getLast? = some c)
    (hc : isQuote c = true) : (maskBody body).getLast? = some c := by
  fun_induction maskBody body with
  | case1 => cases hlast
  | case2 b => exact hlast
  | case3 b hquote =>
    cases Option.some.inj hlast
    exact absurd hc hquote
  | case4 b rest hrest ih =>
    cases rest with
    | nil => exact absurd rfl hrest
    | cons d rest =>
      rw [List.getLast?_cons_cons] at hlast
      rw [List.getLast?_cons, ih hlast]
      rfl

namespace Opens

variable {opener : Text} {quote : CodePoint} {scan : Text → Nat}

/-- An opener consists of marks and quotes. -/
theorem isMark_or_isQuote (h : Opens opener quote scan) :
    ∀ c ∈ opener, isMark c = true ∨ isQuote c = true := by
  cases h with
  | dollarAt => decide
  | atDollar => decide
  | dollar => decide
  | verbatim => decide
  | regular hquote => exact fun c hc => .inr (List.mem_singleton.mp hc ▸ hquote)

/-- An opener is not empty. -/
theorem exists_cons (h : Opens opener quote scan) : ∃ first rest, opener = first :: rest := by
  cases h <;> exact ⟨_, _, rfl⟩

/-- A literal is closed by a quote. -/
theorem isQuote_quote (h : Opens opener quote scan) : isQuote quote = true := by
  cases h with
  | dollarAt => rfl
  | atDollar => rfl
  | dollar => rfl
  | verbatim => rfl
  | regular hquote => exact hquote

end Opens

/-- Neither a mark nor a quote is blank. -/
theorem not_isBlank (h : isMark c = true ∨ isQuote c = true) : c.isBlank = false := by
  cases hblank : c.isBlank with
  | false => rfl
  | true =>
    obtain ⟨_, hquote, hmark⟩ := not_mark_of_isBlank hblank
    rcases h with h | h
    · cases h.symm.trans hmark
    · cases h.symm.trans hquote

namespace Fits

/-- The first code point of a region that is not blank is not blank and not masked. -/
theorem exists_first (h : Fits region next) (hblank : region.isBlank = false) :
    ∃ first rest rest', region.source = first :: rest ∧ region.masked = first :: rest' ∧
      first.isBlank = false := by
  cases region with
  | code b => exact ⟨b, [], [], rfl, rfl, hblank⟩
  | lineComment text => cases hblank
  | blockComment text => cases hblank
  | literal opener body =>
    obtain ⟨quote, scan, hopens⟩ := h.opens
    obtain ⟨first, rest, rfl⟩ := hopens.exists_cons
    exact ⟨first, rest ++ body, rest ++ maskBody body, rfl, rfl,
      not_isBlank (hopens.isMark_or_isQuote first List.mem_cons_self)⟩

/-- The last code point of a region that is closed and not blank is masked to one that is not
blank. -/
theorem exists_last (hclosed : region.IsClosed) (hblank : region.isBlank = false) :
    ∃ last, region.masked.getLast? = some last ∧ last.isBlank = false := by
  cases region with
  | code b => exact ⟨b, rfl, hblank⟩
  | lineComment text => cases hblank
  | blockComment text => cases hblank
  | literal opener body =>
    obtain ⟨quote, scan, hopens, hscan⟩ := exists_opens hclosed
    have hlast := (hopens.ends hscan).getLast? (by decide)
    have hquote := hopens.isQuote_quote
    refine ⟨quote, ?_, not_isBlank (.inr hquote)⟩
    rw [Region.masked, List.getLast?_append, getLast?_maskBody hlast hquote, Option.some_or]

/-- A code point of a masked region that is neither blank nor a mark nor a quote is the
region. -/
theorem eq_code_of_mem_masked (h : Fits region next) (hc : c ∈ region.masked)
    (hblank : c.isBlank = false) (hmark : isMark c = false) (hquote : isQuote c = false) :
    region = .code c := by
  cases region with
  | code b => rw [List.mem_singleton.mp hc]
  | lineComment text => cases hblank.symm.trans (isBlank_of_mem_masked rfl hc)
  | blockComment text => cases hblank.symm.trans (isBlank_of_mem_masked rfl hc)
  | literal opener body =>
    obtain ⟨quote, scan, hopens⟩ := h.opens
    rcases List.mem_append.mp hc with hc | hc
    · rcases hopens.isMark_or_isQuote c hc with h | h
      · cases hmark.symm.trans h
      · cases hquote.symm.trans h
    · rcases isBlank_or_isQuote_of_mem_maskBody hc with h | h
      · cases hblank.symm.trans h
      · cases hquote.symm.trans h

end Fits

/-- A code point of the masked source that is neither blank nor a mark nor a quote cuts the
regions where it cuts the masked source. -/
theorem Parsed.exists_code {regions : List Region} {u v : Text} (h : Parsed regions next)
    (hcut : regions.flatMap Region.masked = u ++ c :: v) (hblank : c.isBlank = false)
    (hmark : isMark c = false) (hquote : isQuote c = false) :
    ∃ before after, regions = before ++ .code c :: after ∧ before.flatMap Region.masked = u ∧
      after.flatMap Region.masked = v := by
  induction regions generalizing u with
  | nil => cases (List.append_eq_nil_iff.mp hcut.symm).2
  | cons region regions ih =>
    rw [List.flatMap_cons] at hcut
    rcases List.append_eq_append_iff.mp hcut with ⟨rest, rfl, hrest⟩ | ⟨rest, hfront, hrest⟩
    · obtain ⟨before, after, rfl, rfl, rfl⟩ := ih h.2 hrest
      exact ⟨region :: before, after, rfl, List.flatMap_cons, rfl⟩
    · cases rest with
      | nil =>
        obtain ⟨before, after, rfl, hbefore, rfl⟩ := ih (u := []) h.2 hrest.symm
        refine ⟨region :: before, after, rfl, ?_, rfl⟩
        rw [List.flatMap_cons, hbefore, hfront, List.append_nil, List.append_nil]
      | cons d rest =>
        obtain ⟨rfl, hv⟩ := List.cons.inj hrest
        have hmem : c ∈ region.masked := by
          rw [hfront]
          exact List.mem_append_right _ List.mem_cons_self
        cases h.1.eq_code_of_mem_masked hmem hblank hmark hquote
        have hlength := congrArg List.length hfront
        rw [Region.masked, List.length_singleton, List.length_append, List.length_cons] at hlength
        cases List.length_eq_zero_iff.mp (show u.length = 0 by omega)
        cases List.length_eq_zero_iff.mp (show rest.length = 0 by omega)
        exact ⟨[], regions, rfl, rfl, hv.symm⟩

end TemplateLint.Source
