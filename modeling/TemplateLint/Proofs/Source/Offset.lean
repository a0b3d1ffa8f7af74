import Mathlib.Data.List.Forall2
import Mathlib.Data.List.TakeWhile
import Mathlib.Logic.Function.Iterate
import TemplateLint.Proofs.Source.Fitting

/-!
# Offsets of masked source

What is found in masked source is read back from the source at the same offset. The scan
behind the mask steps from one region to the next. Whatever is left open where the source
ends, a step passes over at least one code point and never beyond the end, although the ends
of literals are counted two code points at a time behind a backslash, a doubled quote or a
doubled brace. Main statement: the scan comes to the end of every source, and masking keeps
the number of code points, keeps or blanks each of them, and neither moves nor makes a line
feed.
-/

namespace TemplateLint.Source

section Lengths

/-- A regular literal does not go on beyond the end of a text. -/
theorem regularLength_le (quote : CodePoint) (t : Text) : regularLength quote t ≤ t.length := by
  fun_induction regularLength quote t with
  | case1 => exact Nat.le_refl 0
  | case2 => exact Nat.le_refl 1
  | case3 second rest ih =>
    simp only [List.length_cons]
    omega
  | case4 rest => exact Nat.succ_pos _
  | case5 rest => exact Nat.zero_le _
  | case6 c rest _ _ _ ih =>
    rw [List.length_cons]
    omega

/-- A verbatim literal does not go on beyond the end of a text. -/
theorem verbatimLength_le (t : Text) : verbatimLength t ≤ t.length := by
  fun_induction verbatimLength t with
  | case1 => exact Nat.le_refl 0
  | case2 => exact Nat.le_refl 1
  | case3 rest ih =>
    simp only [List.length_cons]
    omega
  | case4 => exact Nat.succ_pos _
  | case5 c d rest _ ih =>
    rw [List.length_cons]
    omega

/-- An interpolated literal does not go on beyond the end of a text, however its holes are
nested and whatever is left open in them. -/
theorem interpolatedLength_le (isVerbatim : Bool) (depth : Nat) (inText : Bool) (t : Text) :
    interpolatedLength isVerbatim depth inText t ≤ t.length := by
  fun_induction interpolatedLength isVerbatim depth inText t
  all_goals
    simp only [List.length_cons, List.length_nil] at *
    omega

/-- The mark of a block comment is in the text. -/
theorem blockEnd?_le {t : Text} {length : Nat} (h : blockEnd? t = some length) :
    length ≤ t.length := by
  fun_induction blockEnd? t generalizing length with
  | case1 => cases h
  | case2 => cases h
  | case3 c d rest _ =>
    cases h
    simp only [List.length_cons]
    omega
  | case4 c d rest _ ih =>
    obtain ⟨before, hbefore, rfl⟩ := Option.map_eq_some_iff.mp h
    exact Nat.succ_le_succ (ih hbefore)

/-- The scan of a literal does not go on beyond the end of a text. -/
theorem Opens.scan_le {opener : Text} {quote : CodePoint} {scan : Text → Nat}
    (h : Opens opener quote scan) (t : Text) : scan t ≤ t.length := by
  cases h with
  | dollarAt => exact interpolatedLength_le true 0 false t
  | atDollar => exact interpolatedLength_le true 0 false t
  | dollar => exact interpolatedLength_le false 0 false t
  | verbatim => exact verbatimLength_le t
  | regular => exact regularLength_le quote t

end Lengths

section Scan

/-- Number of code points that the scan passes over at the front of a source. -/
def stepLength : Text → Nat
  | [] => 0
  | c :: rest =>
    if c = '/' ∧ rest.head? = some (CodePoint.ofChar '/') then
      1 + (rest.takeWhile fun (d : CodePoint) => decide (d ≠ '\n')).length
    else if c = '/' ∧ rest.head? = some (CodePoint.ofChar '*') then
      2 + (blockEnd? rest.tail).getD rest.tail.length
    else
      match literalAt? (c :: rest) with
      | some (opener, length) => opener.length + length
      | none => 1

/-- The scan passes over the region at the front of a source, of which nothing is cut off by
the end of the source. -/
theorem length_source_regionAt (c : CodePoint) (rest : Text) :
    (regionAt c rest).source.length = stepLength (c :: rest) := by
  rw [regionAt, stepLength]
  split
  · rw [Region.source, List.length_cons, Nat.add_comm]
  · split
    · next hblock =>
      obtain ⟨later, rfl⟩ := List.head?_eq_some_iff.mp hblock.2
      have hend : (blockEnd? later).getD later.length ≤ later.length := by
        cases hfound : blockEnd? later with
        | none => exact Nat.le_refl _
        | some length => exact blockEnd?_le hfound
      rw [Region.source, List.length_cons, List.length_take, List.tail_cons, List.length_cons]
      omega
    · cases hliteral : literalAt? (c :: rest) with
      | none => rfl
      | some found =>
        obtain ⟨quote, scan, later, hopens, hwhole, hlength⟩ := Opens.of_literalAt? hliteral
        have hbody : (((c :: rest).drop found.1.length).take found.2).length = found.2 := by
          rw [hwhole, List.drop_left, List.length_take, hlength,
            Nat.min_eq_left (hopens.scan_le later)]
        dsimp only
        rw [Region.source, List.length_append, hbody]

/-- Where the region behind the one at an offset starts. -/
def nextStart (t : Text) (start : Nat) : Nat :=
  start + stepLength (t.drop start)

/-- A step of the scan goes forward and stays in the source. -/
theorem nextStart_bounds (t : Text) (start : Fin t.length) :
    start < nextStart t start ∧ nextStart t start ≤ t.length := by
  have hlength : (t.drop start).length = t.length - start := List.length_drop
  unfold nextStart
  cases hrest : t.drop start with
  | nil =>
    rw [hrest, List.length_nil] at hlength
    omega
  | cons c rest =>
    rw [hrest] at hlength
    obtain ⟨hfront, hne⟩ := regionAt_source_isPrefix c rest
    have hpos := List.length_pos_iff.mpr hne
    have hle := hfront.length_le
    rw [length_source_regionAt] at hpos hle
    omega

/-- The scan of what follows a front starts behind the front and steps from region to
region. -/
theorem iterate_nextStart_append (front t : Text) (k : Nat) :
    (nextStart (front ++ t))^[k] front.length =
      front.length + (((regions t).take k).flatMap Region.source).length := by
  fun_induction regions t generalizing front k with
  | case1 =>
    have hstay : nextStart (front ++ []) front.length = front.length := by
      rw [nextStart, List.drop_left, stepLength, Nat.add_zero]
    rw [List.take_nil, List.flatMap_nil, List.length_nil, Nat.add_zero]
    exact Function.iterate_fixed hstay k
  | case2 c rest region ih =>
    cases k with
    | zero => rfl
    | succ k =>
      have hstep : nextStart (front ++ c :: rest) front.length =
          (front ++ region.source).length := by
        rw [nextStart, List.drop_left, ← length_source_regionAt, List.length_append]
      have hwhole : front ++ c :: rest =
          front ++ region.source ++ rest.drop (region.source.length - 1) := by
        rw [List.append_assoc, regionAt_source_append]
      rw [Function.iterate_succ_apply, hstep, hwhole, ih, List.take_succ_cons,
        List.flatMap_cons, List.length_append, List.length_append, Nat.add_assoc]

/-- The scan steps from region to region. -/
theorem iterate_nextStart (t : Text) (k : Nat) :
    (nextStart t)^[k] 0 = (((regions t).take k).flatMap Region.source).length := by
  have hscan := iterate_nextStart_append [] t k
  rw [List.nil_append, List.length_nil, Nat.zero_add] at hscan
  exact hscan

/-- There are no more regions than code points. -/
theorem length_regions_le (t : Text) : (regions t).length ≤ t.length := by
  fun_induction regions t with
  | case1 => exact Nat.le_refl 0
  | case2 c rest region ih =>
    rw [List.length_drop] at ih
    rw [List.length_cons, List.length_cons]
    omega

end Scan

section Masks

/-- A code point is masked to itself or, if it is no line feed, to a space. -/
def Masks (c masked : CodePoint) : Prop :=
  masked = c ∨ masked = ' ' ∧ c ≠ '\n'

variable {c masked : CodePoint}

/-- A line feed stays one, and no other code point becomes one. -/
theorem Masks.eq_lineFeed_iff (h : Masks c masked) : masked = '\n' ↔ c = '\n' := by
  rcases h with rfl | ⟨rfl, hc⟩
  · exact Iff.rfl
  · exact iff_of_false (by decide) hc

/-- A blanked code point is masked. -/
theorem masks_blank (c : CodePoint) : Masks c (blank c) := by
  unfold blank
  split
  · exact .inl rfl
  · next hend => exact .inr ⟨rfl, fun hline => hend (.inr hline)⟩

/-- What is kept is masked. -/
theorem forall₂_masks_refl (t : Text) : List.Forall₂ Masks t t :=
  List.forall₂_same.mpr fun _ _ => .inl rfl

/-- The body of a literal is masked. -/
theorem forall₂_maskBody (body : Text) : List.Forall₂ Masks body (maskBody body) := by
  fun_induction maskBody body with
  | case1 => exact .nil
  | case2 c => exact forall₂_masks_refl [c]
  | case3 c => exact .cons (masks_blank c) .nil
  | case4 c rest _ ih => exact .cons (masks_blank c) ih

/-- The region at the front of a source is masked. -/
theorem forall₂_masked_regionAt (c : CodePoint) (rest : Text) :
    List.Forall₂ Masks (regionAt c rest).source (regionAt c rest).masked := by
  have hfront := isFront_regionAt c rest
  generalize regionAt c rest = region at hfront ⊢
  cases hfront with
  | lineComment hc _ =>
    refine List.forall₂_map_right_iff.mpr (List.forall₂_same.mpr fun d hd => .inr ⟨rfl, ?_⟩)
    -- only the code points behind the slash are known to be in front of the line end
    rcases List.mem_cons.mp hd with rfl | hd
    · rw [hc]
      decide
    · have hline := List.mem_takeWhile_imp hd
      exact of_decide_eq_true hline
  | blockComment =>
    exact List.forall₂_map_right_iff.mpr (List.forall₂_same.mpr fun d _ => masks_blank d)
  | literal => exact List.rel_append (forall₂_masks_refl _) (forall₂_maskBody _)
  | code => exact forall₂_masks_refl [c]

/-- A source is masked code point by code point. -/
theorem forall₂_mask (t : Text) : List.Forall₂ Masks t (mask t) := by
  have hregions : List.Forall₂ Masks ((regions t).flatMap Region.source) (mask t) := by
    unfold mask
    fun_induction regions t with
    | case1 => exact .nil
    | case2 c rest region ih => exact List.rel_append (forall₂_masked_regionAt c rest) ih
  rw [regions_source] at hregions
  exact hregions

/-- Lists that are related item by item are related at every index. -/
theorem rel_getElem?_of_forall₂ {α β : Type} {r : α → β → Prop} {xs : List α} {ys : List β}
    (h : List.Forall₂ r xs ys) (i : Nat) : Option.Rel r xs[i]? ys[i]? := by
  induction h generalizing i with
  | nil => exact .none
  | cons hfirst _ ih =>
    cases i with
    | zero => exact .some hfirst
    | succ i => exact ih i

end Masks

/-- Masking keeps every offset. From every offset of a source the scan goes forward and stays
in the source, so that it is at the end after as many steps as there are regions, of which
there are no more than code points. The masked source has as many code points as the source,
each of them is that of the source or a space, and the line feeds are at the same offsets. -/
theorem mask_keeps_offsets (t : Text) :
    (∀ start : Fin t.length, start < nextStart t start ∧ nextStart t start ≤ t.length) ∧
      (∀ k, (nextStart t)^[k] 0 = (((regions t).take k).flatMap Region.source).length) ∧
      (nextStart t)^[(regions t).length] 0 = t.length ∧ (regions t).length ≤ t.length ∧
      (mask t).length = t.length ∧
      (∀ i : Nat, (mask t)[i]? = t[i]? ∨ (mask t)[i]? = some (CodePoint.ofChar ' ')) ∧
      ∀ i : Nat, (mask t)[i]? = some (CodePoint.ofChar '\n') ↔
        t[i]? = some (CodePoint.ofChar '\n') := by
  have hmasks : ∀ i : Nat, Option.Rel Masks t[i]? (mask t)[i]? :=
    rel_getElem?_of_forall₂ (forall₂_mask t)
  refine ⟨nextStart_bounds t, iterate_nextStart t, ?_, length_regions_le t, length_mask t,
    fun i => ?_, fun i => ?_⟩
  · rw [iterate_nextStart, List.take_length, regions_source]
  · have hi := hmasks i
    generalize t[i]? = c?, (mask t)[i]? = masked? at hi ⊢
    cases hi with
    | none => exact .inl rfl
    | some hi =>
      rcases hi with rfl | ⟨rfl, _⟩
      · exact .inl rfl
      · exact .inr rfl
  · have hi := hmasks i
    generalize t[i]? = c?, (mask t)[i]? = masked? at hi ⊢
    cases hi with
    | none => exact Iff.rfl
    | some hi => rw [Option.some_inj, Option.some_inj, hi.eq_lineFeed_iff]

end TemplateLint.Source
