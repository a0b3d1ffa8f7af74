import Mathlib.Data.List.TakeWhile
import TemplateLint.Proofs.Source.Balance
import TemplateLint.Proofs.Source.Head
import TemplateLint.Proofs.Source.Scanned
import TemplateLint.Source.Edit

/-!
# Nested calls

A bracket that opens in a part between outer commas closes in the same part. Trimming a part
takes blanks away only, so it keeps every bracket. Main statement: of two calls of a source one
follows the other, or it lies in one argument of the other; and the arguments of a call stand
between its parentheses, with one comma and blanks between neighbours.
-/

namespace TemplateLint.Source

/-- What is no comma stands in one of the parts. -/
theorem exists_part {first u v : Text} {later : List Text} {c : CodePoint}
    (h : first ++ commaTail later = u ++ c :: v) (hc : c ≠ ',') :
    ∃ before part after p q, first :: later = before ++ part :: after ∧ part = p ++ c :: q ∧
      u.length = separatedLength before + p.length ∧ v = q ++ commaTail after := by
  induction later generalizing first u with
  | nil =>
    have hfirst : first = u ++ c :: v := by simpa [commaTail] using h
    exact ⟨[], first, [], u, v, rfl, hfirst, by simp [separatedLength], by simp [commaTail]⟩
  | cons second later ih =>
    have hcut : first ++ CodePoint.ofChar ',' :: (second ++ commaTail later) = u ++ c :: v := h
    rcases List.append_eq_append_iff.mp hcut with ⟨more, rfl, hmore⟩ | ⟨more, rfl, hmore⟩
    · rcases List.cons_eq_append_iff.mp hmore with ⟨rfl, hhead⟩ | ⟨more, rfl, hbehind⟩
      · exact absurd (List.cons.inj hhead).1 hc
      · obtain ⟨before, part, after, p, q, hparts, hpart, hlength, hv⟩ := ih hbehind
        refine ⟨first :: before, part, after, p, q, by rw [hparts]; rfl, hpart, ?_, hv⟩
        have hcount : (first ++ CodePoint.ofChar ',' :: more).length =
            first.length + (more.length + 1) := by
          rw [List.length_append, List.length_cons]
        rw [hcount, separatedLength]
        omega
    · rcases List.cons_eq_append_iff.mp hmore with ⟨rfl, hhead⟩ | ⟨more, rfl, hbehind⟩
      · exact absurd (List.cons.inj hhead).1.symm hc
      · refine ⟨[], u ++ c :: more, second :: later, u, more, rfl, rfl, ?_, hbehind⟩
        rw [separatedLength, Nat.zero_add]

/-- A part is what its trimmed range holds, with blanks around it. -/
theorem exists_trimmedRange (start : Nat) (part : Text) :
    ∃ lead core trail, part = lead ++ (core ++ trail) ∧ (∀ c ∈ lead, c.isBlank = true) ∧
      (∀ c ∈ trail, c.isBlank = true) ∧
      trimmedRange start part = ⟨start + lead.length, start + lead.length + core.length⟩ := by
  have hleft : part.takeWhile CodePoint.isBlank ++ Text.trimLeft part = part :=
    List.takeWhile_append_dropWhile
  have hright : ∀ t : Text,
      Text.trimRight t ++ (t.reverse.takeWhile CodePoint.isBlank).reverse = t := by
    intro t
    rw [Text.trimRight, ← List.reverse_append, List.takeWhile_append_dropWhile,
      List.reverse_reverse]
  refine ⟨part.takeWhile CodePoint.isBlank, Text.trim part,
    ((Text.trimLeft part).reverse.takeWhile CodePoint.isBlank).reverse, ?_, ?_, ?_, ?_⟩
  · rw [Text.trim, hright, hleft]
  · exact fun c hc => List.mem_takeWhile_imp hc
  · exact fun c hc => List.mem_takeWhile_imp (List.mem_reverse.mp hc)
  · have hlength := congrArg List.length hleft
    rw [List.length_append] at hlength
    have hfirst : part.length - (Text.trimLeft part).length =
        (part.takeWhile CodePoint.isBlank).length := by omega
    rw [trimmedRange, hfirst]

/-- What is not blank stands in the trimmed range of its part. -/
theorem mem_trimmedRange (start : Nat) {part p q : Text} {c : CodePoint}
    (hpart : part = p ++ c :: q) (hc : c.isBlank = false) :
    (trimmedRange start part).start ≤ start + p.length ∧
      start + p.length < (trimmedRange start part).stop := by
  obtain ⟨lead, core, trail, hparts, hlead, htrail, hrange⟩ := exists_trimmedRange start part
  have hget : (lead ++ (core ++ trail))[p.length]? = some c := by
    rw [← hparts, hpart, List.getElem?_append_right (Nat.le_refl _), Nat.sub_self,
      List.getElem?_cons_zero]
  have hblank : c.isBlank ≠ true := by
    rw [hc]
    exact Bool.false_ne_true
  have hafter : lead.length ≤ p.length := by
    refine Nat.le_of_not_lt fun hlt => ?_
    rw [List.getElem?_append_left hlt] at hget
    exact hblank (hlead c (List.mem_of_getElem? hget))
  have hbefore : p.length < lead.length + core.length := by
    refine Nat.lt_of_not_le fun hge => ?_
    rw [List.getElem?_append_right hafter, List.getElem?_append_right (by omega)] at hget
    exact hblank (htrail c (List.mem_of_getElem? hget))
  rw [hrange]
  dsimp only
  omega

/-- The parts have their trimmed ranges in order. -/
theorem partRanges_append (start : Nat) (before : List Text) (part : Text) (after : List Text) :
    partRanges start (before ++ part :: after) = partRanges start before ++
      trimmedRange (start + separatedLength before) part ::
        partRanges (start + separatedLength before + part.length + 1) after := by
  induction before generalizing start with
  | nil => rfl
  | cons first before ih =>
    have hstart : start + first.length + 1 + separatedLength before =
        start + separatedLength (first :: before) := by
      rw [separatedLength]
      omega
    rw [List.cons_append, partRanges, ih, hstart]
    rfl

/-- Every range of consecutive parts is the trimmed range of a part. -/
theorem exists_of_mem_partRanges {start : Nat} {parts : List Text} {range : Range}
    (h : range ∈ partRanges start parts) :
    ∃ before part after, parts = before ++ part :: after ∧
      range = trimmedRange (start + separatedLength before) part := by
  induction parts generalizing start with
  | nil => cases h
  | cons first parts ih =>
    rcases List.mem_cons.mp h with rfl | hlater
    · exact ⟨[], first, parts, rfl, rfl⟩
    · obtain ⟨before, part, after, rfl, rfl⟩ := ih hlater
      refine ⟨first :: before, part, after, rfl, ?_⟩
      rw [separatedLength]
      congr 1
      omega

/-- Between the ranges of neighbouring parts there are blanks and one comma. -/
def IsSeparator (t : Text) : Prop :=
  ∃ before after : Text, t = before ++ CodePoint.ofChar ',' :: after ∧
    (∀ c ∈ before, c.isBlank = true) ∧ ∀ c ∈ after, c.isBlank = true

/-- What stands between the ranges of parts is what separates the parts. -/
theorem isSeparator_of_mem_separators {t before after : Text} {first : Text} {later : List Text}
    (ht : t = before ++ (first ++ (commaTail later ++ after))) {separator : Text}
    (h : separator ∈ separators t (partRanges before.length (first :: later))) :
    IsSeparator separator := by
  induction later generalizing before first with
  | nil => cases h
  | cons second later ih =>
    have hnext : t = (before ++ (first ++ [CodePoint.ofChar ','])) ++
        (second ++ (commaTail later ++ after)) := by
      rw [ht]
      simp [commaTail]
    have hstart : (before ++ (first ++ [CodePoint.ofChar ','])).length =
        before.length + first.length + 1 := by
      simp only [List.length_append, List.length_singleton]
      omega
    have hlater := ih hnext
    rw [hstart] at hlater
    rw [partRanges, partRanges, separators] at h
    rcases List.mem_cons.mp h with rfl | h
    · obtain ⟨lead, core, trail, rfl, _, htrail, hrange⟩ :=
        exists_trimmedRange before.length first
      obtain ⟨lead', core', trail', rfl, hlead', _, hrange'⟩ :=
        exists_trimmedRange (before.length + (lead ++ (core ++ trail)).length + 1) second
      refine ⟨trail, lead', ?_, htrail, hlead'⟩
      have hslice := Text.slice_append_append (before ++ (lead ++ core))
        (trail ++ CodePoint.ofChar ',' :: lead') (core' ++ (trail' ++ (commaTail later ++ after)))
      rw [hrange, hrange', ← hslice, ht]
      congr 1
      · simp [commaTail]
      · simp only [List.length_append]
        omega
      · simp only [List.length_append, List.length_cons]
        omega
    · exact hlater h

/-- The masked source around the argument list of a call. -/
structure Enclosed (source : Prepared) (scanned : ScannedCall) (before first : Text)
    (later : List Text) (after : Text) : Prop where
  /-- The list stands between the parentheses, with a comma between its parts. -/
  masked_eq : source.masked = before ++ CodePoint.ofChar '(' ::
    (first ++ (commaTail later ++ CodePoint.ofChar ')' :: after))
  /-- The opening parenthesis stands in front of the list. -/
  openParen_eq : scanned.openParen = before.length
  /-- The closing parenthesis stands behind the list. -/
  closeParen_eq : scanned.closeParen = before.length + 1 + (first ++ commaTail later).length
  /-- The parts have no outer commas. -/
  uncut : ∀ part ∈ first :: later, Uncut part
  /-- The parts have the ranges of the arguments, unless the list is blank. -/
  ranges_eq : scanned.ranges =
    match partRanges (before.length + 1) (first :: later) with
    | [range] => if range.start = range.stop then [] else [range]
    | ranges => ranges

/-- The opening parenthesis of a call stands in the masked source. -/
theorem IsRead.getElem?_openParen {source : Prepared} {scanned : ScannedCall}
    (h : IsRead source scanned) :
    source.masked[scanned.openParen]? = some (CodePoint.ofChar '(') := by
  obtain ⟨found, hfound, hopen⟩ := h.openParen_eq
  rw [hopen]
  exact getElem?_of_mem_occurrences hfound

/-- A call that is read encloses the parts of its argument list. -/
theorem IsRead.exists_enclosed {source : Prepared} {scanned : ScannedCall}
    (h : IsRead source scanned) :
    ∃ before first later after, Enclosed source scanned before first later after := by
  obtain ⟨before, inner, after, hmasked, hbefore, hclose, hbalanced⟩ :=
    exists_balanced_of_findClosing h.getElem?_openParen rfl h.findClosing_eq
  obtain ⟨first, later, rfl, huncut⟩ := hbalanced.exists_parts
  have hlist : source.masked.slice (scanned.openParen + 1) scanned.closeParen =
      first ++ commaTail later := by
    have hslice := Text.slice_append_append (before ++ [CodePoint.ofChar '('])
      (first ++ commaTail later) (CodePoint.ofChar ')' :: after)
    rw [← hslice, hmasked, hclose, ← hbefore]
    simp
  refine ⟨before, first, later, after, ?_, hbefore.symm, by rw [hclose, hbefore], huncut, ?_⟩
  · rw [hmasked, List.append_assoc]
  · have horder : ¬ scanned.closeParen < scanned.openParen + 1 := by omega
    have hranges := h.ranges_eq
    rw [splitTopLevel, if_neg horder, hlist, commaParts_append_commaTail huncut, ← hbefore]
      at hranges
    exact hranges

namespace Enclosed

variable {source : Prepared} {scanned : ScannedCall} {before first after : Text}
  {later : List Text}

/-- A range that is not empty is one of an argument if it is the trimmed range of a part. -/
theorem mem_ranges (h : Enclosed source scanned before first later after) {front back : List Text}
    {part : Text} (hparts : first :: later = front ++ part :: back)
    (hne : (trimmedRange (before.length + 1 + separatedLength front) part).start ≠
      (trimmedRange (before.length + 1 + separatedLength front) part).stop) :
    trimmedRange (before.length + 1 + separatedLength front) part ∈ scanned.ranges := by
  have hmem : trimmedRange (before.length + 1 + separatedLength front) part ∈
      partRanges (before.length + 1) (first :: later) := by
    rw [hparts, partRanges_append]
    exact List.mem_append_right _ List.mem_cons_self
  rw [h.ranges_eq]
  split
  · next only honly =>
    rw [honly, List.mem_singleton] at hmem
    rw [hmem] at hne ⊢
    rw [if_neg hne]
    exact List.mem_cons_self
  · exact hmem

/-- The range of an argument is the trimmed range of a part. -/
theorem exists_of_mem_ranges (h : Enclosed source scanned before first later after)
    {range : Range} (hrange : range ∈ scanned.ranges) :
    ∃ front part back, first :: later = front ++ part :: back ∧
      range = trimmedRange (before.length + 1 + separatedLength front) part := by
  refine exists_of_mem_partRanges ?_
  rw [h.ranges_eq] at hrange
  split at hrange
  · next only honly =>
    split at hrange
    · cases hrange
    · rw [honly]
      exact hrange
  · exact hrange

/-- What stands between the arguments of a call is blank but for one comma. -/
theorem isSeparator (h : Enclosed source scanned before first later after) {separator : Text}
    (hsep : separator ∈ separators source.masked scanned.ranges) : IsSeparator separator := by
  have hmasked : source.masked = (before ++ [CodePoint.ofChar '(']) ++
      (first ++ (commaTail later ++ CodePoint.ofChar ')' :: after)) := by
    rw [h.masked_eq, List.append_assoc, List.singleton_append]
  refine isSeparator_of_mem_separators hmasked ?_
  rw [List.length_append, List.length_singleton]
  rw [h.ranges_eq] at hsep
  split at hsep
  · next only honly =>
    split at hsep
    · cases hsep
    · cases hsep
  · exact hsep

/-- What stands between the parentheses of a call stands in its list. -/
theorem exists_cut (h : Enclosed source scanned before first later after) {offset : Nat}
    {c : CodePoint} (hc : source.masked[offset]? = some c) (hclose : c ≠ ')')
    (hafter : scanned.openParen < offset) (hbefore : offset ≤ scanned.closeParen) :
    ∃ u v, first ++ commaTail later = u ++ c :: v ∧ offset = before.length + 1 + u.length := by
  have hopen := h.openParen_eq
  have hlast := h.closeParen_eq
  have hlist : (first ++ commaTail later)[offset - (before.length + 1)]? = some c := by
    have hnext : offset - before.length = offset - (before.length + 1) + 1 := by omega
    rw [h.masked_eq, List.getElem?_append_right (by omega), ← List.append_assoc, hnext,
      List.getElem?_cons_succ] at hc
    by_cases hin : offset - (before.length + 1) < (first ++ commaTail later).length
    · rw [List.getElem?_append_left hin] at hc
      exact hc
    · -- the offset is that of the closing parenthesis
      have hzero : offset - (before.length + 1) - (first ++ commaTail later).length = 0 := by omega
      rw [List.getElem?_append_right (by omega), hzero, List.getElem?_cons_zero] at hc
      exact absurd (Option.some.inj hc).symm hclose
  obtain ⟨hlt, hget⟩ := List.getElem?_eq_some_iff.mp hlist
  have hlength : ((first ++ commaTail later).take (offset - (before.length + 1))).length =
      offset - (before.length + 1) := List.length_take_of_le (Nat.le_of_lt hlt)
  refine ⟨(first ++ commaTail later).take (offset - (before.length + 1)),
    (first ++ commaTail later).drop (offset - (before.length + 1) + 1), ?_, ?_⟩
  · rw [← hget, ← List.drop_eq_getElem_cons hlt, List.take_append_drop]
  · rw [hlength]
    omega

/-- A parenthesis that opens in the argument list of a call closes in the same argument. -/
theorem exists_range (h : Enclosed source scanned before first later after)
    {openParen closeParen : Nat}
    (hparen : source.masked[openParen]? = some (CodePoint.ofChar '('))
    (hclosing : findClosing source.masked openParen = some closeParen)
    (hafter : scanned.openParen < openParen) (hbefore : openParen ≤ scanned.closeParen) :
    ∃ range ∈ scanned.ranges, range.start ≤ openParen ∧ closeParen < range.stop := by
  obtain ⟨u, v, hlist, hopen⟩ := h.exists_cut hparen (by decide) hafter hbefore
  obtain ⟨front, part, back, p, q, hparts, hpart, hplace, hv⟩ := exists_part hlist (by decide)
  have hbalanced : Balanced part :=
    (h.uncut part (hparts ▸ List.mem_append_right _ List.mem_cons_self)).balanced
  obtain ⟨inner, rest, hq, hinner⟩ := hbalanced.exists_closing hpart rfl
  -- the parenthesis is closed behind what it encloses, which is a front of the rest of the part
  have hclose : closeParen = openParen + 1 + inner.length := by
    have hmasked : source.masked = (before ++ CodePoint.ofChar '(' :: u) ++
        CodePoint.ofChar '(' :: (inner ++ CodePoint.ofChar ')' ::
          (rest ++ (commaTail back ++ CodePoint.ofChar ')' :: after))) := by
      rw [h.masked_eq, ← List.append_assoc first, hlist, hv, hq]
      simp
    have hlength : (before ++ CodePoint.ofChar '(' :: u).length = openParen := by
      rw [List.length_append, List.length_cons]
      omega
    have hfound : findClosing source.masked (before ++ CodePoint.ofChar '(' :: u).length =
        some ((before ++ CodePoint.ofChar '(' :: u).length + 1 + inner.length) := by
      rw [hmasked]
      exact findClosing_of_balanced rfl hinner
    rw [hlength, hclosing] at hfound
    exact Option.some.inj hfound
  have hlast : part = (p ++ CodePoint.ofChar '(' :: inner) ++ CodePoint.ofChar ')' :: rest := by
    rw [hpart, hq, List.append_assoc, List.cons_append]
  have hin := mem_trimmedRange (before.length + 1 + separatedLength front) hpart rfl
  have hin' := mem_trimmedRange (before.length + 1 + separatedLength front) hlast rfl
  rw [List.length_append, List.length_cons] at hin'
  exact ⟨_, h.mem_ranges hparts (by omega), by omega, by omega⟩

end Enclosed

/-- The arguments of a call stand between its parentheses one after the other, and in the
masked source one comma and blanks stand between neighbours. -/
structure Spaced (masked : Text) (scanned : ScannedCall) : Prop where
  /-- Every argument stands between the parentheses. -/
  bounds : ∀ range ∈ scanned.ranges, scanned.openParen + 1 ≤ range.start ∧
    range.start ≤ range.stop ∧ range.stop ≤ scanned.closeParen
  /-- An argument ends before the next one starts. -/
  ordered : scanned.ranges.Pairwise fun a b => a.stop ≤ b.start
  /-- One comma and blanks stand between neighbours. -/
  separated : ∀ separator ∈ separators masked scanned.ranges, IsSeparator separator

/-- Ranges one after the other do not overlap. -/
theorem Consecutive.pairwise {start : Nat} {ranges : List Range} (h : Consecutive start ranges) :
    (∀ range ∈ ranges, start ≤ range.start) ∧ ranges.Pairwise fun a b => a.stop ≤ b.start := by
  induction h with
  | nil => exact ⟨nofun, List.Pairwise.nil⟩
  | @cons start range later hstart horder _ ih =>
    obtain ⟨hbounds, hpairwise⟩ := ih
    refine ⟨List.forall_mem_cons.mpr ⟨hstart, fun other hother => ?_⟩,
      List.pairwise_cons.mpr ⟨hbounds, hpairwise⟩⟩
    have hnext := hbounds other hother
    omega

namespace IsRead

variable {source : Prepared} {scanned other : ScannedCall}

/-- The arguments of a call that is read are spaced. -/
theorem spaced (h : IsRead source scanned) : Spaced source.masked scanned := by
  obtain ⟨before, first, later, after, henclosed⟩ := h.exists_enclosed
  have hclose := (bounds_of_findClosing h.findClosing_eq).1
  refine ⟨fun range hrange => ?_, h.consecutive.pairwise.2, fun _ => henclosed.isSeparator⟩
  rw [h.ranges_eq] at hrange
  exact bounds_of_mem_splitTopLevel hclose hrange

/-- Of two calls that are read the second one follows the first one, or lies in one of its
arguments. -/
theorem nested (h : IsRead source scanned) (hother : IsRead source other)
    (hlt : scanned.openParen < other.openParen) :
    scanned.closeParen < other.openParen ∨ other.closeParen < scanned.closeParen ∧
      ∃ range ∈ scanned.ranges, range.start ≤ other.openParen ∧ other.closeParen < range.stop := by
  obtain ⟨before, first, later, after, henclosed⟩ := h.exists_enclosed
  by_cases hafter : scanned.closeParen < other.openParen
  · exact .inl hafter
  · obtain ⟨range, hrange, hstart, hstop⟩ := henclosed.exists_range hother.getElem?_openParen
      hother.findClosing_eq hlt (by omega)
    have hbounds := h.spaced.bounds range hrange
    exact .inr ⟨by omega, range, hrange, hstart, hstop⟩

end IsRead

/-- The calls of a source form a hierarchy: of two calls one follows the other or lies in one
argument of it, and the arguments of every call stand between its parentheses one after the
other, with one comma and blanks between neighbours. -/
theorem scan_hierarchy (text : Text) (config : Config) (file : Option Text) :
    let source := prepare text config file
    (∀ outer ∈ scan source, ∀ inner ∈ scan source, outer.openParen < inner.openParen →
      outer.closeParen < inner.openParen ∨ inner.closeParen < outer.closeParen ∧
        ∃ range ∈ outer.ranges, range.start ≤ inner.openParen ∧ inner.closeParen < range.stop) ∧
    ∀ scanned ∈ scan source, Spaced (mask text) scanned := by
  intro source
  constructor
  · intro outer houter inner hinner hlt
    exact (isRead_of_mem_scan houter).nested (isRead_of_mem_scan hinner) hlt
  · intro scanned hscanned
    exact (isRead_of_mem_scan hscanned).spaced

/-- A call with a list of types: the comma of the list cuts the arguments of the call around
it, and the parentheses still lie in one of them. -/
theorem scan_hierarchy_types :
    let text : Text := "Error(a, Fatal<b, c>(d, \"(\") /* ( */ , e)"
    ∃ outer ∈ scan (prepare text {} none), ∃ inner ∈ scan (prepare text {} none),
      outer.openParen < inner.openParen ∧ inner.openParen ≤ outer.closeParen ∧
      inner.closeParen < outer.closeParen ∧ outer.ranges.length = 4 ∧
      (∃ range ∈ outer.ranges, range.start ≤ inner.openParen ∧ inner.closeParen < range.stop) ∧
      Spaced (mask text) outer := by
  intro text
  have hcalls : ∃ outer ∈ scan (prepare text {} none), ∃ inner ∈ scan (prepare text {} none),
      outer.openParen < inner.openParen ∧ inner.openParen ≤ outer.closeParen ∧
      outer.ranges.length = 4 := by
    decide +kernel
  obtain ⟨outer, houter, inner, hinner, hlt, hle, hcount⟩ := hcalls
  obtain ⟨hnested, hspaced⟩ := scan_hierarchy text {} none
  rcases hnested outer houter inner hinner hlt with hafter | ⟨hclose, hrange⟩
  · omega
  · exact ⟨outer, houter, inner, hinner, hlt, hle, hclose, hcount, hrange, hspaced outer houter⟩

end TemplateLint.Source
