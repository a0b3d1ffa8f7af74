import TemplateLint.Proofs.Basic
import TemplateLint.Proofs.Text.Part
import TemplateLint.Source.Edit

/-!
# Edits that keep apart

The edits that are applied do not overlap. An edit whose replacement has the length of its
range leaves every other offset alone, so a run of such edits that keep apart changes the
text in their ranges only, and permutes it if every edit does.
-/

namespace TemplateLint.Source

/-- Edits one after the other in a text of some length, the first no earlier than an
offset. -/
inductive Apart (length : Nat) : Nat → List Edit → Prop
  /-- There are no more edits. -/
  | nil {start : Nat} : Apart length start []
  /-- The first edit comes before the others. -/
  | cons {earliest start stop : Nat} {replacement : Text} {later : List Edit}
      (hstart : earliest ≤ start) (horder : start ≤ stop) (hstop : stop ≤ length)
      (hlater : Apart length stop later) :
    Apart length earliest (⟨start, stop, replacement⟩ :: later)

/-- The range of an edit whose offsets are not negative. -/
def Edit.range (edit : Edit) : Range :=
  ⟨edit.start.toNat, edit.stop.toNat⟩

/-- The range of an edit lies in a text of some length. -/
structure Edit.IsIn (length : Nat) (edit : Edit) : Prop where
  /-- The range starts in the text. -/
  start_eq : edit.start = edit.range.start
  /-- The range stops in the text. -/
  stop_eq : edit.stop = edit.range.stop
  /-- The range does not stop before it starts. -/
  start_le_stop : edit.range.start ≤ edit.range.stop
  /-- The range does not stop behind the text. -/
  stop_le : edit.range.stop ≤ length

/-- What is kept of some edits is among them. -/
theorem mem_of_mem_keepApart {edit : Edit} {lastStop : Int} {edits : List Edit}
    (h : edit ∈ keepApart lastStop edits) : edit ∈ edits := by
  induction edits generalizing lastStop with
  | nil => cases h
  | cons first later ih =>
    rw [keepApart] at h
    split at h
    · exact List.mem_cons_of_mem _ (ih h)
    · rcases List.mem_cons.mp h with rfl | hlater
      · exact List.mem_cons_self
      · exact List.mem_cons_of_mem _ (ih hlater)

/-- What is kept of some edits keeps apart. -/
theorem apart_keepApart {length : Nat} {edits : List Edit} (hall : ∀ edit ∈ edits, edit.IsIn length)
    (lastStop : Int) : Apart length lastStop.toNat (keepApart lastStop edits) := by
  induction edits generalizing lastStop with
  | nil => exact .nil
  | cons first later ih =>
    rw [List.forall_mem_cons] at hall
    rw [keepApart]
    split
    · exact ih hall.2 lastStop
    · next hlast =>
      obtain ⟨hstart, hstop, horder, hlength⟩ := hall.1
      have hlater := ih hall.2 first.stop
      have hfirst : (⟨first.range.start, first.range.stop, first.replacement⟩ : Edit) = first := by
        rw [← hstart, ← hstop]
      rw [← hfirst]
      exact .cons (by omega) horder hlength (by rw [hfirst]; exact hlater)

/-- What is applied of some edits is among them. -/
theorem mem_of_mem_keptEdits {edit : Edit} {edits : List Edit} (h : edit ∈ keptEdits edits) :
    edit ∈ edits :=
  List.mem_mergeSort.mp (mem_of_mem_keepApart h)

/-- What is applied of some edits keeps apart. -/
theorem apart_keptEdits {length : Nat} {edits : List Edit}
    (hall : ∀ edit ∈ edits, edit.IsIn length) : Apart length 0 (keptEdits edits) := by
  have hsorted : ∀ edit ∈ edits.mergeSort Edit.precedes, edit.IsIn length :=
    fun edit hedit => hall edit (List.mem_mergeSort.mp hedit)
  exact apart_keepApart hsorted (-1)

/-- An edit of a range replaces it. -/
theorem Edit.apply_eq {t : Text} {start stop : Nat} (horder : start ≤ stop)
    (hstop : stop ≤ t.length) (replacement : Text) :
    Edit.apply ⟨start, stop, replacement⟩ t = t.take start ++ replacement ++ t.drop stop := by
  have hcut : ∀ {offset : Nat}, offset ≤ t.length → Text.cutAt t offset = offset := by
    intro offset hle
    rw [Text.cutAt, if_neg (by omega), Int.toNat_natCast, Nat.min_eq_left hle]
  rw [Edit.apply, hcut (Nat.le_trans horder hstop), hcut hstop]

/-- An edit that keeps the length of its range shows its replacement there and leaves
everything else alone. -/
theorem Edit.getElem?_apply {t : Text} {start stop : Nat} (horder : start ≤ stop)
    (hstop : stop ≤ t.length) {replacement : Text} (hlength : replacement.length = stop - start)
    (offset : Nat) :
    (Edit.apply ⟨start, stop, replacement⟩ t)[offset]? =
      if start ≤ offset ∧ offset < stop then replacement[offset - start]? else t[offset]? := by
  have htake : (t.take start).length = start := List.length_take_of_le (by omega)
  rw [Edit.apply_eq horder hstop, List.getElem?_append, List.length_append, htake, hlength,
    List.getElem?_append, htake]
  by_cases hbefore : offset < start
  · rw [if_pos (by omega), if_pos hbefore, if_neg (by omega), List.getElem?_take_of_lt hbefore]
  · by_cases hinside : offset < stop
    · rw [if_pos (by omega), if_neg hbefore, if_pos (by omega)]
    · rw [if_neg (by omega), if_neg (by omega), List.getElem?_drop]
      congr 1
      omega

/-- An edit that permutes its range permutes the text. -/
theorem Edit.perm_apply {t : Text} {start stop : Nat} (horder : start ≤ stop)
    (hstop : stop ≤ t.length) {replacement : Text}
    (hperm : replacement.Perm (t.slice start stop)) :
    (Edit.apply ⟨start, stop, replacement⟩ t).Perm t := by
  have hjoin : t.take start ++ t.slice start stop ++ t.drop stop = t := by
    rw [Text.take_append_slice_of_le t horder, List.take_append_drop]
  have happly := (hperm.append_left (t.take start)).append_right (t.drop stop)
  rw [hjoin] at happly
  rw [Edit.apply_eq horder hstop]
  exact happly

/-- The edits keep the lengths of their ranges. -/
def KeepLength (edits : List Edit) : Prop :=
  ∀ edit ∈ edits, (edit.replacement.length : Int) = edit.stop - edit.start

namespace Apart

variable {t : Text} {earliest : Nat} {edits : List Edit}

/-- Edits that keep the lengths of their ranges keep the length of the text. -/
theorem length_foldr (h : Apart t.length earliest edits) (hkeep : KeepLength edits) :
    (edits.foldr Edit.apply t).length = t.length := by
  induction h with
  | nil => rfl
  | @cons earliest start stop replacement later _ horder hstop _ ih =>
    rw [KeepLength, List.forall_mem_cons] at hkeep
    have hlater := ih hkeep.2
    have hlength : (replacement.length : Int) = stop - start := hkeep.1
    rw [List.foldr_cons, Edit.apply_eq horder (by omega)]
    simp only [List.length_append, List.length_take, List.length_drop]
    omega

/-- Outside the ranges of the edits the text is unchanged. -/
theorem getElem?_foldr_of_outside (h : Apart t.length earliest edits) (hkeep : KeepLength edits)
    {offset : Nat} (hout : ∀ edit ∈ edits, (offset : Int) < edit.start ∨ edit.stop ≤ offset) :
    (edits.foldr Edit.apply t)[offset]? = t[offset]? := by
  induction h with
  | nil => rfl
  | @cons earliest start stop replacement later _ horder hstop hlater ih =>
    rw [KeepLength, List.forall_mem_cons] at hkeep
    rw [List.forall_mem_cons] at hout
    have hlength : (replacement.length : Int) = stop - start := hkeep.1
    have hside : (offset : Int) < start ∨ (stop : Int) ≤ offset := hout.1
    have hroom : stop ≤ (later.foldr Edit.apply t).length := by
      rw [hlater.length_foldr hkeep.2]
      exact hstop
    rw [List.foldr_cons, Edit.getElem?_apply horder hroom (by omega), if_neg (by omega),
      ih hkeep.2 hout.2]

/-- No edit starts before the first one may. -/
theorem le_start_of_mem (h : Apart t.length earliest edits) {edit : Edit} (hmem : edit ∈ edits) :
    (earliest : Int) ≤ edit.start := by
  induction h with
  | nil => cases hmem
  | @cons earliest start stop replacement later hstart horder _ _ ih =>
    rcases List.mem_cons.mp hmem with rfl | hlater
    · exact Int.ofNat_le.mpr hstart
    · have hnext := ih hlater
      omega

/-- Every edit stops before the later ones start. -/
theorem pairwise_stop_le (h : Apart t.length earliest edits) :
    edits.Pairwise fun a b => a.stop ≤ b.start := by
  induction h with
  | nil => exact List.Pairwise.nil
  | cons _ _ _ hlater ih =>
    exact List.pairwise_cons.mpr ⟨fun edit hedit => hlater.le_start_of_mem hedit, ih⟩

/-- The ranges of the edits do not overlap. -/
theorem pairwise_range (h : Apart t.length earliest edits) :
    (edits.map Edit.range).Pairwise fun a b => a.stop ≤ b.start := by
  rw [List.pairwise_map]
  exact h.pairwise_stop_le.imp fun hle => Int.toNat_le_toNat hle

/-- In front of the edits the text is unchanged. -/
theorem take_foldr (h : Apart t.length earliest edits) (hkeep : KeepLength edits) :
    (edits.foldr Edit.apply t).take earliest = t.take earliest := by
  apply List.ext_getElem?
  intro offset
  rw [List.getElem?_take, List.getElem?_take]
  split
  · refine h.getElem?_foldr_of_outside hkeep fun edit hedit => .inl ?_
    have hstart := h.le_start_of_mem hedit
    omega
  · rfl

/-- In the range of an edit its replacement stands. -/
theorem slice_foldr (h : Apart t.length earliest edits) (hkeep : KeepLength edits) {edit : Edit}
    (hmem : edit ∈ edits) : edit.range.of (edits.foldr Edit.apply t) = edit.replacement := by
  induction h with
  | nil => cases hmem
  | @cons earliest start stop replacement later _ horder hstop hlater ih =>
    rw [KeepLength, List.forall_mem_cons] at hkeep
    have hlength : (replacement.length : Int) = stop - start := hkeep.1
    have hin : stop ≤ (later.foldr Edit.apply t).length := by
      rw [hlater.length_foldr hkeep.2]
      exact hstop
    rw [List.foldr_cons]
    rcases List.mem_cons.mp hmem with rfl | hmem
    · have hfront : ((later.foldr Edit.apply t).take start).length = start :=
        List.length_take_of_le (Nat.le_trans horder hin)
      have hback : stop = start + replacement.length := by omega
      rw [Edit.apply_eq horder hin, List.append_assoc]
      have hslice := Text.slice_append_append ((later.foldr Edit.apply t).take start) replacement
        ((later.foldr Edit.apply t).drop stop)
      rw [hfront, ← hback] at hslice
      exact hslice
    · have hstart := hlater.le_start_of_mem hmem
      have hdrop : (Edit.apply ⟨start, stop, replacement⟩ (later.foldr Edit.apply t)).drop
          edit.start.toNat = (later.foldr Edit.apply t).drop edit.start.toNat := by
        apply List.ext_getElem?
        intro offset
        rw [List.getElem?_drop, List.getElem?_drop, Edit.getElem?_apply horder hin (by omega),
          if_neg (by omega)]
      rw [Range.of, Text.slice, Edit.range, hdrop]
      exact ih hkeep.2 hmem

/-- Edits that permute their ranges permute the text. -/
theorem perm_foldr (h : Apart t.length earliest edits) (hkeep : KeepLength edits)
    (hperm : ∀ edit ∈ edits, edit.replacement.Perm (edit.range.of t)) :
    (edits.foldr Edit.apply t).Perm t := by
  induction h with
  | nil => exact List.Perm.refl t
  | @cons earliest start stop replacement later _ horder hstop hlater ih =>
    rw [KeepLength, List.forall_mem_cons] at hkeep
    rw [List.forall_mem_cons] at hperm
    have hin : stop ≤ (later.foldr Edit.apply t).length := by
      rw [hlater.length_foldr hkeep.2]
      exact hstop
    have hfront : (later.foldr Edit.apply t).take stop = t.take stop :=
      hlater.take_foldr hkeep.2
    have hreplaced : replacement.Perm ((later.foldr Edit.apply t).slice start stop) := by
      rw [Text.slice, ← List.drop_take, hfront, List.drop_take]
      exact hperm.1
    exact (Edit.perm_apply horder hin hreplaced).trans (ih hkeep.2 hperm.2)

end Apart

end TemplateLint.Source
