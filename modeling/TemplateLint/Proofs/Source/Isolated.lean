import TemplateLint.Proofs.Source.Nesting
import TemplateLint.Proofs.Source.Slot

/-!
# Arguments on their own

An argument is cut out of the source between separators that are regions of their own, and
then trimmed. Trimming takes away whole regions, except that of an open literal at the end only
the opener is left if nothing else of it can be seen. So the text of an argument is cut into
the regions that it has in the source. Main statement: an argument on its own is masked to what
it is masked to in the source.
-/

namespace TemplateLint.Source

/-- Regions of a source and what is left of them when they are trimmed. -/
inductive SeenAs : List Region → List Region → Prop
  /-- All regions are left as they are. -/
  | whole (own : List Region) : SeenAs own own
  /-- Of a literal at the end, the content of which is masked to blanks, the opener is left. -/
  | opened (front : List Region) (opener : Text) {body : Text}
      (hblank : ∀ c ∈ maskBody body, c.isBlank = true) :
    SeenAs (front ++ [.literal opener body]) (front ++ [.literal opener []])

/-- A body is masked to blanks, or it ends with a quote. -/
theorem isBlank_or_getLast?_maskBody (body : Text) :
    (∀ c ∈ maskBody body, c.isBlank = true) ∨
      ∃ last, (maskBody body).getLast? = some last ∧ last.isBlank = false := by
  fun_induction maskBody body with
  | case1 => exact .inl (by simp)
  | case2 c hquote => exact .inr ⟨c, rfl, not_isBlank (.inr hquote)⟩
  | case3 c =>
    refine .inl fun b hb => ?_
    rw [List.mem_singleton.mp hb]
    exact isBlank_blank c
  | case4 c rest _ ih =>
    rcases ih with hblank | ⟨last, hlast, hne⟩
    · exact .inl (List.forall_mem_cons.mpr ⟨isBlank_blank c, hblank⟩)
    · refine .inr ⟨last, ?_, hne⟩
      rw [List.getLast?_cons, hlast]
      rfl

/-- An opener without content is a literal. -/
theorem Opens.fits_nil {opener : Text} {quote : CodePoint} {scan : Text → Nat}
    (h : Opens opener quote scan) : Fits (.literal opener []) [] := by
  refine .literal h ?_
  cases h <;> rfl

/-- What is parsed in front of a literal is parsed in front of its opener. -/
theorem Parsed.of_opener {before : List Region} {opener next : Text} {quote : CodePoint}
    {scan : Text → Nat} (h : Parsed before (opener ++ next)) (hopens : Opens opener quote scan) :
    Parsed before opener := by
  obtain ⟨first, rest, rfl⟩ := hopens.exists_cons
  refine Parsed.of_head h fun _ _ hquote => ?_
  have hhead : (rest ++ next).head? = some (CodePoint.ofChar '"') := by
    rw [List.head?_append, hquote, Option.some_or]
  exact hhead

/-- Something of every argument is seen up to a code point that is not blank. -/
theorem IsTrimmed.exists_seenAs {own : List Region} (h : IsTrimmed own) :
    ∃ seen, SeenAs own seen ∧
      ∀ c, (seen.flatMap Region.masked).getLast? = some c → c.isBlank = false := by
  have hends : ∀ {seen : List Region} {last : CodePoint},
      (seen.flatMap Region.masked).getLast? = some last → last.isBlank = false →
      ∀ c, (seen.flatMap Region.masked).getLast? = some c → c.isBlank = false := by
    intro seen last hlast hblank c hc
    rw [hlast] at hc
    exact Option.some.inj hc ▸ hblank
  cases hregion : own.getLast? with
  | none =>
    rw [List.getLast?_eq_none_iff.mp hregion]
    exact ⟨[], .whole [], nofun⟩
  | some region =>
    have hblank := h.last region hregion
    obtain ⟨front, rfl⟩ := List.getLast?_eq_some_iff.mp hregion
    cases region with
    | code b => exact ⟨_, .whole _, hends (getLast?_flatMap_masked rfl front) hblank⟩
    | lineComment text => cases hblank
    | blockComment text => cases hblank
    | literal opener body =>
      obtain ⟨next, hparsed⟩ := h.parsed
      obtain ⟨quote, scan, hopens⟩ := (parsed_append.mp hparsed).2.1.opens
      rcases isBlank_or_getLast?_maskBody body with hbody | ⟨last, hlast, hne⟩
      · obtain ⟨last, hlast⟩ : ∃ last, opener.getLast? = some last := by
          obtain ⟨first, rest, rfl⟩ := hopens.exists_cons
          exact ⟨_, List.getLast?_cons⟩
        have hmasked : (Region.literal opener []).masked.getLast? = some last := by
          rw [Region.masked, maskBody, List.append_nil, hlast]
        exact ⟨_, .opened front opener hbody, hends (getLast?_flatMap_masked hmasked front)
          (not_isBlank (hopens.isMark_or_isQuote last (List.mem_of_getLast? hlast)))⟩
      · have hmasked : (Region.literal opener body).masked.getLast? = some last := by
          rw [Region.masked, List.getLast?_append, hlast, Option.some_or]
        exact ⟨_, .whole _, hends (getLast?_flatMap_masked hmasked front) hne⟩

namespace SeenAs

variable {own seen : List Region}

/-- What is left of regions is parsed as it was. -/
theorem parsed {next : Text} (h : SeenAs own seen) (hparsed : Parsed own next) :
    Parsed seen [] := by
  cases h with
  | whole => exact hparsed.nil
  | opened front opener _ =>
    obtain ⟨hfront, hliteral, _⟩ := parsed_append.mp hparsed
    obtain ⟨quote, scan, hopens⟩ := hliteral.opens
    refine parsed_append.mpr ⟨?_, hopens.fits_nil, trivial⟩
    simp only [List.flatMap_singleton, Region.source, List.append_nil, List.append_assoc]
      at hfront ⊢
    exact hfront.of_opener hopens

/-- What is left of regions is the front of their source, and what is trimmed is blank in the
masked source. -/
theorem exists_trimmed_off (h : SeenAs own seen) :
    (∃ off, own.flatMap Region.source = seen.flatMap Region.source ++ off) ∧
      ∃ off, own.flatMap Region.masked = seen.flatMap Region.masked ++ off ∧
        ∀ c ∈ off, c.isBlank = true := by
  cases h with
  | whole => exact ⟨⟨[], (List.append_nil _).symm⟩, [], (List.append_nil _).symm, nofun⟩
  | @opened front opener body hblank =>
    refine ⟨⟨body, ?_⟩, maskBody body, ?_, hblank⟩
    · simp only [List.flatMap_append, List.flatMap_singleton, Region.source, List.append_nil,
        List.append_assoc]
    · simp only [List.flatMap_append, List.flatMap_singleton, Region.masked, maskBody,
        List.append_nil, List.append_assoc]

end SeenAs

/-- Trimming the masked text between two separators leaves what is seen of the regions of an
argument. -/
theorem Parsed.exists_seenAs {slot : List Region} {d : CodePoint} {next : Text}
    (h : Parsed slot (d :: next)) (hd : d ≠ '\n') (start : Nat) :
    ∃ lead own trail seen, slot = lead ++ (own ++ trail) ∧ SeenAs own seen ∧ Parsed seen [] ∧
      trimmedRange start (slot.flatMap Region.masked) =
        ⟨start + (lead.flatMap Region.source).length,
          start + (lead.flatMap Region.source).length + (seen.flatMap Region.source).length⟩ := by
  obtain ⟨frame, own, rfl, hframe, hown, hempty⟩ := Frame.exists_fill h hd
  obtain ⟨seen, hseen, hlast⟩ := hown.exists_seenAs
  obtain ⟨_, hparsed⟩ := hown.parsed
  obtain ⟨off, hoff, hblank⟩ := hseen.exists_trimmed_off.2
  refine ⟨frame.lead, own, frame.trail, seen, rfl, hseen, hseen.parsed hparsed, ?_⟩
  have hmasked : (frame.fill own).flatMap Region.masked = frame.lead.flatMap Region.masked ++
      (seen.flatMap Region.masked ++ (off ++ frame.trail.flatMap Region.masked)) := by
    rw [Frame.fill, List.flatMap_append, List.flatMap_append, hoff, List.append_assoc]
  have htrail : ∀ c ∈ off ++ frame.trail.flatMap Region.masked, c.isBlank = true := by
    intro c hc
    rcases List.mem_append.mp hc with hc | hc
    · exact hblank c hc
    · exact isBlank_of_mem_flatMap_masked hframe.trail_blank c hc
  have hhead : ∀ c, (seen.flatMap Region.masked).head? = some c → c.isBlank = false := by
    intro c hc
    refine hown.head_masked ?_
    rw [hoff, List.head?_append, hc, Option.some_or]
  rw [hmasked, trimmedRange_append (isBlank_of_mem_flatMap_masked hframe.lead_blank) htrail hhead
    hlast, length_flatMap_masked, length_flatMap_masked]
  split
  · next hnil =>
    -- if nothing is seen, there are no regions at all: the first one would be seen
    rw [hnil, List.nil_append] at hoff
    have hnone : own.flatMap Region.masked = [] := by
      cases hfirst : own.flatMap Region.masked with
      | nil => rfl
      | cons c rest =>
        have hc : c ∈ off := by
          rw [← hoff, hfirst]
          exact List.mem_cons_self
        have hvisible := hown.head_masked (by rw [hfirst, List.head?_cons])
        cases (hblank c hc).symm.trans hvisible
    have hlength := length_flatMap_masked seen
    rw [hnil] at hlength
    rw [hempty (hown.masked_eq_nil_iff.mp hnone), ← hoff, hnone, ← hlength]
    rfl
  · rfl

/-- Every part of a list stands between two delimiters, which are commas or the delimiters of
the list. -/
theorem exists_delimited {first part : Text} {later front back : List Text}
    (h : first :: later = front ++ part :: back) (opening closing : CodePoint) (after : Text) :
    ∃ u left right v, opening :: (first ++ (commaTail later ++ closing :: after)) =
        u ++ left :: (part ++ right :: v) ∧ u.length = separatedLength front ∧
      (left = opening ∨ left = ',') ∧ (right = closing ∨ right = ',') := by
  induction front generalizing first later opening with
  | nil =>
    obtain ⟨rfl, rfl⟩ := List.cons.inj h
    cases later with
    | nil => exact ⟨[], opening, closing, after, rfl, rfl, .inl rfl, .inl rfl⟩
    | cons second later =>
      refine ⟨[], opening, ',', second ++ (commaTail later ++ closing :: after), ?_, rfl,
        .inl rfl, .inr rfl⟩
      simp [commaTail]
  | cons _ front ih =>
    obtain ⟨rfl, hlater⟩ := List.cons.inj h
    cases later with
    | nil => simp at hlater
    | cons second later =>
      obtain ⟨u, left, right, v, hlist, hlength, hleft, hright⟩ := ih hlater ','
      refine ⟨opening :: (first ++ u), left, right, v, ?_, ?_, ?_, hright⟩
      · have hwhole : opening :: (first ++ (commaTail (second :: later) ++ closing :: after)) =
            opening :: (first ++ CodePoint.ofChar ',' ::
              (second ++ (commaTail later ++ closing :: after))) := by
          simp [commaTail]
        rw [hwhole, hlist, List.cons_append, List.append_assoc]
      · rw [List.length_cons, List.length_append, separatedLength, hlength]
        omega
      · rcases hleft with hleft | hleft
        · exact .inr hleft
        · exact .inr hleft

/-- A comma or a parenthesis is neither blank nor a mark nor a quote. -/
theorem plain_of_delimiter {c : CodePoint} (h : c = '(' ∨ c = ')' ∨ c = ',') :
    c.isBlank = false ∧ isMark c = false ∧ isQuote c = false := by
  rcases h with rfl | rfl | rfl <;> exact ⟨rfl, rfl, rfl⟩

/-- The range of an argument is that of regions of the source between two delimiters. -/
theorem Enclosed.exists_slot {source : Prepared} {scanned : ScannedCall} {before first after : Text}
    {later : List Text} (h : Enclosed source scanned before first later after) {text : Text}
    (hmasked : source.masked = mask text) {range : Range} (hrange : range ∈ scanned.ranges) :
    ∃ front slot back d next, regions text = front ++ (slot ++ back) ∧
      Parsed slot (d :: next) ∧ d ≠ '\n' ∧
      range = trimmedRange (front.flatMap Region.source).length (slot.flatMap Region.masked) := by
  obtain ⟨earlier, part, rest, hparts, rfl⟩ := h.exists_of_mem_ranges hrange
  obtain ⟨u, left, right, v, hlist, hlength, hleft, hright⟩ := exists_delimited hparts '(' ')' after
  have hwhole : (regions text).flatMap Region.masked =
      (before ++ u) ++ left :: (part ++ right :: v) := by
    have hmask : (regions text).flatMap Region.masked = source.masked := hmasked.symm
    rw [hmask, h.masked_eq, hlist, List.append_assoc]
  have hparsed := parsed_regions text
  obtain ⟨hblank, hmark, hquote⟩ := plain_of_delimiter (hleft.imp_right .inr)
  obtain ⟨front, behind, hfront, hbefore, hbehind⟩ :=
    hparsed.exists_code hwhole hblank hmark hquote
  rw [hfront, parsed_append] at hparsed
  obtain ⟨hblank', hmark', hquote'⟩ := plain_of_delimiter (.inr hright)
  obtain ⟨slot, back, hslot, hpart, _⟩ :=
    hparsed.2.2.exists_code hbehind hblank' hmark' hquote'
  have hlast := hparsed.2.2
  rw [hslot, parsed_append] at hlast
  refine ⟨front ++ [.code left], slot, .code right :: back, right, _, ?_, hlast.1, ?_, ?_⟩
  · rw [hfront, hslot, List.append_assoc, List.singleton_append]
  · rintro rfl
    cases hblank'
  · have hstart : ((front ++ [Region.code left]).flatMap Region.source).length =
        before.length + 1 + separatedLength earlier := by
      have hcount := congrArg List.length hbefore
      rw [length_flatMap_masked, List.length_append] at hcount
      rw [List.flatMap_append, List.flatMap_singleton, Region.source, List.length_append,
        List.length_singleton]
      omega
    rw [hstart, hpart]

/-- The range of what is seen of regions holds it, in the source and in the masked source. -/
theorem SeenAs.of_range {text : Text} {before own after seen : List Region}
    (hregions : regions text = before ++ (own ++ after)) (h : SeenAs own seen) {range : Range}
    (hrange : range = ⟨(before.flatMap Region.source).length,
      (before.flatMap Region.source).length + (seen.flatMap Region.source).length⟩) :
    range.of text = seen.flatMap Region.source ∧
      range.of (mask text) = seen.flatMap Region.masked := by
  obtain ⟨⟨off, hsource⟩, off', hmasked, _⟩ := h.exists_trimmed_off
  have htext : text = before.flatMap Region.source ++ (seen.flatMap Region.source ++
      (off ++ after.flatMap Region.source)) := by
    rw [← regions_source text, hregions, List.flatMap_append, List.flatMap_append, hsource,
      List.append_assoc]
  have hmask : mask text = before.flatMap Region.masked ++ (seen.flatMap Region.masked ++
      (off' ++ after.flatMap Region.masked)) := by
    rw [mask, hregions, List.flatMap_append, List.flatMap_append, hmasked, List.append_assoc]
  constructor
  · rw [hrange, Range.of, htext]
    exact Text.slice_append_append _ _ _
  · rw [hrange, Range.of, hmask, ← length_flatMap_masked, ← length_flatMap_masked]
    exact Text.slice_append_append _ _ _

/-- An argument means the same on its own as in the source: its text is masked to what stands
in its range of the masked source. The regions of its text are regions of the source, from the
start of the range on; of an open literal at the end only the opener may be left. -/
theorem mask_argument {text : Text} {config : Config} {file : Option Text}
    {scanned : ScannedCall} {range : Range} (hscanned : scanned ∈ scan (prepare text config file))
    (hrange : range ∈ scanned.ranges) :
    mask (range.of text) = range.of (mask text) ∧
      ∃ before own after, regions text = before ++ (own ++ after) ∧
        (before.flatMap Region.source).length = range.start ∧
        SeenAs own (regions (range.of text)) := by
  obtain ⟨_, _, _, _, henclosed⟩ := (isRead_of_mem_scan hscanned).exists_enclosed
  obtain ⟨front, slot, back, d, next, hregions, hslot, hd, hplace⟩ :=
    henclosed.exists_slot rfl hrange
  obtain ⟨lead, own, trail, seen, rfl, hseen, hparsed, htrimmed⟩ :=
    hslot.exists_seenAs hd (front.flatMap Region.source).length
  have hown : regions text = (front ++ lead) ++ (own ++ (trail ++ back)) := by
    rw [hregions]
    simp only [List.append_assoc]
  have hspan : range = ⟨((front ++ lead).flatMap Region.source).length,
      ((front ++ lead).flatMap Region.source).length + (seen.flatMap Region.source).length⟩ := by
    rw [hplace, htrimmed, List.flatMap_append, List.length_append]
  obtain ⟨htext, hmask⟩ := hseen.of_range hown hspan
  have hsame : regions (range.of text) = seen := by
    rw [htext]
    exact hparsed.regions_source_eq
  refine ⟨?_, front ++ lead, own, trail ++ back, hown, ?_, ?_⟩
  · rw [mask, hsame, hmask]
  · rw [hspan]
  · rw [hsame]
    exact hseen

/-- An open literal in front of a line end, of which the argument holds the opener only, and a
literal with a doubled quote and a comma: both are masked alike on their own and in the call. -/
theorem mask_argument_open :
    let text : Text := "Error($\"a, b\n, @\"c\"\" ,\" /* ) */ )"
    ∃ scanned ∈ scan (prepare text {} none), ∃ first second, scanned.ranges = [first, second] ∧
      first.of text = "$\"" ∧ Region.literal "$\"" "a, b" ∈ regions text ∧
      second.of text = "@\"c\"\" ,\"" ∧ mask (first.of text) = first.of (mask text) ∧
      mask (second.of text) = second.of (mask text) := by
  intro text
  obtain ⟨scanned, hscanned, hranges, hliteral⟩ : ∃ scanned ∈ scan (prepare text {} none),
      scanned.ranges = [⟨6, 8⟩, ⟨15, 23⟩] ∧ Region.literal "$\"" "a, b" ∈ regions text := by
    decide +kernel
  have hmask : ∀ range ∈ scanned.ranges, mask (range.of text) = range.of (mask text) :=
    fun range hrange => (mask_argument hscanned hrange).1
  rw [hranges] at hmask
  exact ⟨scanned, hscanned, _, _, hranges, by decide, hliteral, by decide,
    hmask _ List.mem_cons_self, hmask _ (List.mem_cons_of_mem _ List.mem_cons_self)⟩

end TemplateLint.Source
