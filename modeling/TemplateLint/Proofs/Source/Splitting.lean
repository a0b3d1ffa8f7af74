import TemplateLint.Proofs.Source.Nesting
import TemplateLint.Proofs.Source.Slot

/-!
# Splitting at outer commas

A comma of a balanced text is an outer one if the text in front of it is balanced, so the parts
without outer commas are those that have none. Main statement: a range with matching brackets is
split at exactly its outer commas, and the ranges of the split are its parts without the blanks
at their ends.
-/

namespace TemplateLint.Source

/-- A balanced text may start with a code point that is no bracket. -/
theorem Balanced.of_skip {c : CodePoint} {rest : Text} (h : Balanced (c :: rest))
    (hopen : closer? c = none) : Balanced rest := by
  cases h with
  | skip _ _ hrest => exact hrest
  | pair hpair => cases hopen.symm.trans hpair

/-- A balanced text that starts with a bracket starts with a pair. -/
theorem Balanced.exists_pair {c closer : CodePoint} {rest : Text} (h : Balanced (c :: rest))
    (hopen : closer? c = some closer) :
    ∃ inner later, rest = inner ++ closer :: later ∧ Balanced inner ∧ Balanced later := by
  cases h with
  | skip hnone => cases hnone.symm.trans hopen
  | @pair _ _ inner later hpair hinner hlater =>
    cases hpair.symm.trans hopen
    exact ⟨inner, later, rfl, hinner, hlater⟩

/-- A bracket is closed in one way. -/
theorem Balanced.append_inj {inner inner' rest rest' : Text} {c closer : CodePoint}
    (hopen : closer? c = some closer) (h : Balanced inner) (h' : Balanced inner')
    (heq : inner ++ closer :: rest = inner' ++ closer :: rest') :
    inner = inner' ∧ rest = rest' := by
  have hfound : ∀ {u v : Text}, Balanced u →
      findClosing ([] ++ c :: (u ++ closer :: v)) ([] : Text).length =
        some (([] : Text).length + 1 + u.length) := findClosing_of_balanced hopen
  have hclosing := hfound (v := rest) h
  rw [heq, hfound h', Option.some.injEq] at hclosing
  obtain ⟨rfl, hrest⟩ := List.append_inj heq (by omega)
  exact ⟨rfl, (List.cons.inj hrest).2⟩

/-- A comma stands outside all brackets of a text: what stands in front of it is balanced. -/
def HasOuterComma (t : Text) : Prop :=
  ∃ before after : Text, t = before ++ CodePoint.ofChar ',' :: after ∧ Balanced before

/-- In a text that is put together without outer commas there is none. -/
theorem Uncut.not_hasOuterComma {t : Text} (h : Uncut t) : ¬ HasOuterComma t := by
  rintro ⟨before, after, ht, hbefore⟩
  induction h generalizing before with
  | nil => simp at ht
  | @skip c rest hopen _ hcomma _ ih =>
    rcases List.cons_eq_append_iff.mp ht with ⟨rfl, hhead⟩ | ⟨front, rfl, hlater⟩
    · exact hcomma (List.cons.inj hhead).1.symm
    · exact ih front hlater (hbefore.of_skip hopen)
  | @pair c closer inner rest hopen hinner _ ih =>
    rcases List.cons_eq_append_iff.mp ht with ⟨rfl, hhead⟩ | ⟨front, rfl, hlater⟩
    · rw [← (List.cons.inj hhead).1] at hopen
      cases hopen
    · obtain ⟨inner', rest', rfl, hinner', hrest'⟩ := hbefore.exists_pair hopen
      rw [List.append_assoc, List.cons_append] at hlater
      exact ih rest' (Balanced.append_inj hopen hinner hinner' hlater).2 hrest'

/-- The texts without outer commas are the balanced ones in which there is none. -/
theorem uncut_iff {t : Text} : Uncut t ↔ Balanced t ∧ ¬ HasOuterComma t := by
  constructor
  · intro h
    exact ⟨h.balanced, h.not_hasOuterComma⟩
  · rintro ⟨hbalanced, hcomma⟩
    obtain ⟨first, later, rfl, huncut⟩ := hbalanced.exists_parts
    obtain ⟨hfirst, _⟩ := List.forall_mem_cons.mp huncut
    cases later with
    | nil =>
      rw [commaTail, List.flatMap_nil, List.append_nil]
      exact hfirst
    | cons second later =>
      exact absurd ⟨first, second ++ commaTail later, rfl, hfirst.balanced⟩ hcomma

/-- A text is cut at its outer commas. -/
structure CutAtCommas (t : Text) (parts : List Text) : Prop where
  /-- There is at least one part. -/
  ne_nil : parts ≠ []
  /-- The parts make up the text, with a comma between neighbours. -/
  join_eq : Text.join [','] parts = t
  /-- The parts are balanced. -/
  balanced : ∀ part ∈ parts, Balanced part
  /-- No comma of a part stands outside of its brackets. -/
  not_hasOuterComma : ∀ part ∈ parts, ¬ HasOuterComma part

/-- Parts are put together one after the other, with a comma in front of every later one. -/
theorem join_comma_cons (first : Text) (later : List Text) :
    Text.join [','] (first :: later) = first ++ commaTail later := by
  induction later generalizing first with
  | nil => rw [Text.join, List.intercalate_singleton, commaTail, List.flatMap_nil, List.append_nil]
  | cons second later ih =>
    have hlater := ih second
    rw [Text.join] at hlater ⊢
    rw [List.intercalate_cons_cons, hlater, List.append_assoc]
    rfl

/-- A text is cut into its parts without outer commas. -/
theorem CutAtCommas.commaParts_eq {t : Text} {parts : List Text} (h : CutAtCommas t parts) :
    commaParts 0 t = parts := by
  obtain ⟨first, later, rfl⟩ := List.exists_cons_of_ne_nil h.ne_nil
  rw [← h.join_eq, join_comma_cons]
  exact commaParts_append_commaTail fun part hpart =>
    uncut_iff.mpr ⟨h.balanced part hpart, h.not_hasOuterComma part hpart⟩

/-- A balanced text is cut at its outer commas in exactly one way. -/
theorem Balanced.cutAtCommas {t : Text} (h : Balanced t) : CutAtCommas t (commaParts 0 t) := by
  obtain ⟨first, later, rfl, huncut⟩ := h.exists_parts
  rw [commaParts_append_commaTail huncut]
  exact ⟨List.cons_ne_nil _ _, join_comma_cons first later,
    fun part hpart => (uncut_iff.mp (huncut part hpart)).1,
    fun part hpart => (uncut_iff.mp (huncut part hpart)).2⟩

/-- The range that is left of a part when the blanks at its ends are taken away. -/
inductive Strips (start : Nat) : Text → Range → Prop
  /-- What is not blank is left, with everything in between. -/
  | core {lead core trail : Text} (hlead : ∀ c ∈ lead, c.isBlank = true)
      (htrail : ∀ c ∈ trail, c.isBlank = true) (hne : core ≠ [])
      (hhead : ∀ c, core.head? = some c → c.isBlank = false)
      (hlast : ∀ c, core.getLast? = some c → c.isBlank = false) :
    Strips start (lead ++ (core ++ trail)) ⟨start + lead.length, start + lead.length + core.length⟩
  /-- Of a blank part nothing is left but its end. -/
  | blank {part : Text} (hblank : ∀ c ∈ part, c.isBlank = true) :
    Strips start part ⟨start + part.length, start + part.length⟩

/-- The ranges that are left of some parts, with a comma between neighbours. -/
inductive StripsAll : Nat → List Text → List Range → Prop
  /-- There are no more parts. -/
  | nil {start : Nat} : StripsAll start [] []
  /-- The first part comes before the others and a comma. -/
  | cons {start : Nat} {part : Text} {range : Range} {parts : List Text} {ranges : List Range}
      (hpart : Strips start part range)
      (hlater : StripsAll (start + part.length + 1) parts ranges) :
    StripsAll start (part :: parts) (range :: ranges)

/-- The trimmed range of a part is what is left of it. -/
theorem strips_trimmedRange (start : Nat) (part : Text) :
    Strips start part (trimmedRange start part) := by
  obtain ⟨lead, core, trail, rfl, hlead, htrail, hhead, hlast, hempty⟩ :=
    exists_trimmed CodePoint.isBlank part
  rw [trimmedRange_append hlead htrail hhead hlast]
  split
  · next hnil =>
    have hlength : start + lead.length + trail.length =
        start + (lead ++ (core ++ trail)).length := by
      rw [hnil, List.nil_append, List.length_append, Nat.add_assoc]
    rw [hlength]
    refine .blank fun c hc => ?_
    rw [hnil, List.nil_append] at hc
    exact (List.mem_append.mp hc).elim (hlead c) (htrail c)
  · next hne => exact .core hlead htrail hne hhead hlast

/-- The ranges of consecutive parts are what is left of them. -/
theorem stripsAll_partRanges (start : Nat) (parts : List Text) :
    StripsAll start parts (partRanges start parts) := by
  induction parts generalizing start with
  | nil => exact .nil
  | cons part parts ih => exact .cons (strips_trimmedRange start part) (ih _)

/-- A range is empty if and only if its part is blank. -/
theorem Strips.start_eq_stop_iff {start : Nat} {part : Text} {range : Range}
    (h : Strips start part range) : range.start = range.stop ↔ ∀ c ∈ part, c.isBlank = true := by
  cases h with
  | @core lead core trail _ _ hne hhead _ =>
    obtain ⟨c, rest, rfl⟩ := List.exists_cons_of_ne_nil hne
    refine iff_of_false (by simp) fun hblank => ?_
    have hc := hblank c (List.mem_append_right _ List.mem_cons_self)
    cases hc.symm.trans (hhead c rfl)
  | blank hblank => exact iff_of_true rfl hblank

/-- A part stands in a text behind the parts in front of it and their commas. -/
theorem isAt_join (front : List Text) (part : Text) (back : List Text) :
    Text.IsAt part (Text.join [','] (front ++ part :: back)) (separatedLength front) := by
  induction front with
  | nil => exact ⟨[], commaTail back, by rw [List.nil_append, join_comma_cons]; rfl, rfl⟩
  | cons first front ih =>
    obtain ⟨before, after, hwhole, hlength⟩ := ih
    refine ⟨first ++ [CodePoint.ofChar ','] ++ before, after, ?_, ?_⟩
    · have hne : front ++ part :: back ≠ [] := by simp
      rw [Text.join] at hwhole ⊢
      rw [List.cons_append, List.intercalate_cons_of_ne_nil hne, hwhole]
      simp only [List.append_assoc]
    · rw [List.length_append, List.length_append, List.length_singleton, separatedLength, hlength]

/-- A part is its range with blanks in front of it and behind it. -/
theorem eq_around_trimmedRange {t part : Text} {start : Nat} (h : Text.IsAt part t start) :
    part = t.slice start (trimmedRange start part).start ++ ((trimmedRange start part).of t ++
        t.slice (trimmedRange start part).stop (start + part.length)) ∧
      (∀ c ∈ t.slice start (trimmedRange start part).start, c.isBlank = true) ∧
      ∀ c ∈ t.slice (trimmedRange start part).stop (start + part.length), c.isBlank = true := by
  obtain ⟨lead, core, trail, rfl, hlead, htrail, hrange⟩ := exists_trimmedRange start part
  obtain ⟨before, after, rfl, rfl⟩ := h
  have hfront := Text.slice_append_append before lead (core ++ (trail ++ after))
  have hmiddle := Text.slice_append_append (before ++ lead) core (trail ++ after)
  have hback := Text.slice_append_append (before ++ (lead ++ core)) trail after
  simp only [List.length_append, List.append_assoc, ← Nat.add_assoc] at hfront hmiddle hback
  simp only [hrange, Range.of, List.length_append, List.append_assoc, ← Nat.add_assoc, hfront,
    hmiddle, hback]
  exact ⟨trivial, hlead, htrail⟩

section Split

variable {t : Text} {start stop : Nat}

/-- Nothing but blanks has no ranges; otherwise every part has its range. -/
theorem splitTopLevel_eq (horder : start ≤ stop) (h : Balanced (t.slice start stop)) :
    (∀ c ∈ t.slice start stop, c.isBlank = true) ∧ splitTopLevel t start stop = [] ∨
      (¬ ∀ c ∈ t.slice start stop, c.isBlank = true) ∧
        splitTopLevel t start stop = partRanges start (commaParts 0 (t.slice start stop)) := by
  rw [splitTopLevel, if_neg (Nat.not_lt.mpr horder)]
  by_cases hblank : ∀ c ∈ t.slice start stop, c.isBlank = true
  · have hparts : commaParts 0 (t.slice start stop) = [t.slice start stop] := by
      have huncut := commaParts_uncut (Uncut.of_blank hblank) []
      rw [List.append_nil] at huncut
      exact huncut.trans (congrArg (· :: []) (List.append_nil _))
    have hempty := (strips_trimmedRange start (t.slice start stop)).start_eq_stop_iff.mpr hblank
    refine .inl ⟨hblank, ?_⟩
    rw [hparts]
    exact if_pos hempty
  · refine .inr ⟨hblank, ?_⟩
    obtain ⟨first, later, hparts⟩ := List.exists_cons_of_ne_nil h.cutAtCommas.ne_nil
    have hjoin := h.cutAtCommas.join_eq
    rw [hparts] at hjoin ⊢
    cases later with
    | nil =>
      rw [join_comma_cons, commaTail, List.flatMap_nil, List.append_nil] at hjoin
      have hrange := (strips_trimmedRange start first).start_eq_stop_iff
      rw [hjoin] at hrange ⊢
      exact if_neg fun hempty => hblank (hrange.mp hempty)
    | cons second later => rfl

/-- A part between outer commas stands in the text. -/
theorem isAt_part (hstart : start ≤ t.length) {front back : List Text} {part : Text}
    (h : CutAtCommas (t.slice start stop) (front ++ part :: back)) :
    Text.IsAt part t (start + separatedLength front) := by
  have hjoin := isAt_join front part back
  rw [h.join_eq] at hjoin
  exact hjoin.trans (Text.isAt_slice hstart)

/-- The ranges between outer commas hold balanced texts. -/
theorem balanced_of_mem_partRanges (hstart : start ≤ t.length) {parts : List Text}
    (h : CutAtCommas (t.slice start stop) parts) {range : Range}
    (hrange : range ∈ partRanges start parts) : Balanced (range.of t) := by
  obtain ⟨front, part, back, rfl, rfl⟩ := exists_of_mem_partRanges hrange
  have hmem : part ∈ front ++ part :: back := List.mem_append_right _ List.mem_cons_self
  obtain ⟨hpart, hlead, htrail⟩ := eq_around_trimmedRange (isAt_part hstart h)
  have huncut : Uncut part := uncut_iff.mpr ⟨h.balanced part hmem, h.not_hasOuterComma part hmem⟩
  rw [hpart] at huncut
  exact (uncut_iff.mp ((huncut.of_blank_append hlead).of_append_blank htrail)).1

/-- Parts are as long as their front and their back. -/
theorem separatedLength_append (front back : List Text) :
    separatedLength (front ++ back) = separatedLength front + separatedLength back := by
  induction front with
  | nil => exact (Nat.zero_add _).symm
  | cons first front ih =>
    rw [List.cons_append, separatedLength, separatedLength, ih]
    omega

/-- The ranges of the parts and what stands between them make up the text, but for blanks at its
ends. -/
theorem exists_blanks_around_partRanges (horder : start ≤ stop) (hstop : stop ≤ t.length)
    {parts : List Text} (h : CutAtCommas (t.slice start stop) parts) :
    ∃ lead trail : Text, (∀ c ∈ lead, c.isBlank = true) ∧ (∀ c ∈ trail, c.isBlank = true) ∧
      t.slice start stop = lead ++ (interleave ((partRanges start parts).map (·.of t))
        (separators t (partRanges start parts)) ++ trail) := by
  have hstart : start ≤ t.length := Nat.le_trans horder hstop
  obtain ⟨first, later, hfirst⟩ := List.exists_cons_of_ne_nil h.ne_nil
  obtain ⟨front, last, hlast⟩ := (List.eq_nil_or_concat' parts).resolve_left h.ne_nil
  have hend : start + separatedLength front + last.length = stop := by
    have hlength := length_commaParts 0 (t.slice start stop)
    rw [h.commaParts_eq, Text.length_slice hstop, hlast, separatedLength_append, separatedLength,
      separatedLength] at hlength
    omega
  have hfirstAt : Text.IsAt first t (start + separatedLength []) := isAt_part hstart (hfirst ▸ h)
  have hlastAt : Text.IsAt last t (start + separatedLength front) := isAt_part hstart (hlast ▸ h)
  obtain ⟨_, hlead, _⟩ := eq_around_trimmedRange hfirstAt
  obtain ⟨_, _, htrail⟩ := eq_around_trimmedRange hlastAt
  rw [hend] at htrail
  have hranges : partRanges start parts =
      trimmedRange start first :: partRanges (start + first.length + 1) later := by
    rw [hfirst, partRanges]
  have hlastRange : (partRanges start parts).getLast? =
      some (trimmedRange (start + separatedLength front) last) := by
    rw [hlast, partRanges_append, partRanges, List.getLast?_concat]
  have hconsecutive := consecutive_partRanges start parts
  rw [hranges] at hconsecutive hlastRange ⊢
  have hbefore := trimmedRange_bounds start first
  have hbehind := trimmedRange_bounds (start + separatedLength front) last
  have hbetween : (trimmedRange start first).start ≤
      (trimmedRange (start + separatedLength front) last).stop := by
    cases hconsecutive with
    | cons _ hfirst hlater =>
      exact (Consecutive.cons (Nat.le_refl _) hfirst hlater).start_le_of_getLast? hlastRange
  refine ⟨_, _, hlead, htrail, ?_⟩
  rw [interleave_ranges hconsecutive hlastRange, separatedLength, Nat.add_zero,
    Text.slice_append_slice hbetween (by omega), Text.slice_append_slice hbefore.1 (by omega)]

end Split

/-- A range with matching brackets is split at exactly its outer commas. There is one way to cut
its content at the commas outside all brackets. The split gives nothing if and only if the content
is blank, and otherwise it gives the ranges of the parts without the blanks at their ends. Every
range lies within the bounds and holds a balanced text, and the ranges with what stands between
them are the content, but for blanks at its ends. -/
theorem split_at_outer_commas {t : Text} {start stop : Nat} (horder : start ≤ stop)
    (hstop : stop ≤ t.length) (h : Balanced (t.slice start stop)) :
    let content := t.slice start stop
    let ranges := splitTopLevel t start stop
    (∃! parts, CutAtCommas content parts) ∧
    (ranges = [] ↔ ∀ c ∈ content, c.isBlank = true) ∧
    (∀ parts, CutAtCommas content parts → ranges ≠ [] → StripsAll start parts ranges) ∧
    (∀ range ∈ ranges, start ≤ range.start ∧ range.start ≤ range.stop ∧ range.stop ≤ stop ∧
      Balanced (range.of t)) ∧
    ∃ lead trail : Text, (∀ c ∈ lead, c.isBlank = true) ∧ (∀ c ∈ trail, c.isBlank = true) ∧
      content = lead ++ (interleave (ranges.map (·.of t)) (separators t ranges) ++ trail) := by
  intro content ranges
  have hcut : CutAtCommas content (commaParts 0 content) := h.cutAtCommas
  refine ⟨⟨_, hcut, fun parts hparts => hparts.commaParts_eq.symm⟩, ?_⟩
  rcases splitTopLevel_eq horder h with ⟨hblank, hnone⟩ | ⟨hvisible, hall⟩
  · have hranges : ranges = [] := hnone
    rw [hranges]
    exact ⟨iff_of_true rfl hblank, fun _ _ hne => absurd rfl hne, nofun, content, [], hblank, nofun,
      (List.append_nil _).symm⟩
  · have hranges : ranges = partRanges start (commaParts 0 content) := hall
    have hne : ranges ≠ [] := by
      obtain ⟨first, later, hparts⟩ := List.exists_cons_of_ne_nil hcut.ne_nil
      rw [hranges, hparts]
      exact List.cons_ne_nil _ _
    refine ⟨iff_of_false hne hvisible, fun parts hparts _ => ?_, fun range hrange => ?_, ?_⟩
    · rw [hranges, hparts.commaParts_eq]
      exact stripsAll_partRanges start parts
    · obtain ⟨hfirst, hmiddle, hlast⟩ := bounds_of_mem_splitTopLevel horder hrange
      rw [hranges] at hrange
      exact ⟨hfirst, hmiddle, hlast,
        balanced_of_mem_partRanges (Nat.le_trans horder hstop) hcut hrange⟩
    · rw [hranges]
      exact exists_blanks_around_partRanges horder hstop hcut

/-- Commas in brackets do not cut, and between two commas that do there is an empty range. -/
theorem split_at_outer_commas_empty :
    let t : Text := "f( [a, \x7bb,c\x7d] ,, d )"
    let ranges : List Range := [⟨3, 13⟩, ⟨15, 15⟩, ⟨17, 18⟩]
    19 ≤ t.length ∧ Balanced (t.slice 2 19) ∧ splitTopLevel t 2 19 = ranges ∧
      (∃! parts, CutAtCommas (t.slice 2 19) parts) ∧
      ∃ parts, CutAtCommas (t.slice 2 19) parts ∧ StripsAll 2 parts ranges := by
  intro t ranges
  have hstop : 19 ≤ t.length := by decide
  have hbalanced : Balanced (t.slice 2 19) := by decide
  have hranges : splitTopLevel t 2 19 = ranges := by decide
  obtain ⟨⟨parts, hparts, honly⟩, _, hstrips, _⟩ :=
    split_at_outer_commas (by decide) hstop hbalanced
  have hall := hstrips parts hparts (by rw [hranges]; exact List.cons_ne_nil _ _)
  rw [hranges] at hall
  exact ⟨hstop, hbalanced, hranges, ⟨parts, hparts, honly⟩, parts, hparts, hall⟩

end TemplateLint.Source
