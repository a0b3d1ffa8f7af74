import Mathlib.Algebra.Ring.Int.Defs
import Mathlib.Data.List.Nodup
import TemplateLint.Proofs.Source.Patch

/-!
# Edits as a substitution

Edits are tried in the order of their starts, the longest first, and one is passed over if it
starts before the last one that is kept stops. Main statement: applying edits replaces the ranges
of the ones that are kept, which do not overlap, and keeps everything else; every other edit is
passed over for an earlier one that is kept.
-/

namespace TemplateLint.Source

/-- A text in which the ranges of some edits are replaced, and the rest is kept in order. The
ranges are cut out one after the other; `offset` counts the code points in front of the text. -/
inductive Substituted : Nat → List Edit → Text → Text → Prop
  /-- Without edits everything is kept. -/
  | nil {offset : Nat} (rest : Text) : Substituted offset [] rest rest
  /-- What stands in front of the first range is kept, and the range is replaced. -/
  | cons {offset : Nat} {edit : Edit} {later : List Edit} {between removed rest rest' : Text}
      (hstart : edit.start = offset + between.length)
      (hstop : edit.stop = edit.start + removed.length)
      (hlater : Substituted (offset + between.length + removed.length) later rest rest') :
    Substituted offset (edit :: later) (between ++ (removed ++ rest))
      (between ++ (edit.replacement ++ rest'))

/-- Every edit that is applied changes the length by what it adds and what it takes away. -/
theorem Substituted.length_eq {offset : Nat} {edits : List Edit} {t t' : Text}
    (h : Substituted offset edits t t') : (t'.length : Int) = t.length +
      (edits.map fun edit => (edit.replacement.length : Int) - (edit.stop - edit.start)).sum := by
  induction h with
  | nil rest => rw [List.map_nil, List.sum_nil, Int.add_zero]
  | cons _ hstop _ ih =>
    simp only [List.length_append, List.map_cons, List.sum_cons]
    omega

/-- Edits that keep apart, applied from the last to the first, replace their ranges. -/
theorem Apart.exists_substituted {t : Text} {earliest : Nat} {edits : List Edit}
    (h : Apart t.length earliest edits) :
    ∃ rest, edits.foldr Edit.apply t = t.take earliest ++ rest ∧
      Substituted earliest edits (t.drop earliest) rest := by
  induction h with
  | @nil start => exact ⟨t.drop start, (List.take_append_drop start t).symm, .nil _⟩
  | @cons earliest start stop replacement later hstart horder hstop _ ih =>
    obtain ⟨rest, hrest, hlater⟩ := ih
    have hbetween : (t.slice earliest start).length = start - earliest :=
      Text.length_slice (Nat.le_trans horder hstop)
    have hremoved : (t.slice start stop).length = stop - start := Text.length_slice hstop
    have hback : t.drop earliest =
        t.slice earliest start ++ (t.slice start stop ++ t.drop stop) := by
      rw [Text.slice_append_drop t horder, Text.slice_append_drop t hstart]
    have htake : (t.take stop).length = stop := List.length_take_of_le hstop
    refine ⟨t.slice earliest start ++ (replacement ++ rest), ?_, ?_⟩
    · have hlength : stop ≤ (t.take stop ++ rest).length := by
        rw [List.length_append, htake]
        exact Nat.le_add_right _ _
      have hkept : (t.take stop ++ rest).take start = t.take start := by
        rw [List.take_append_of_le_length (by omega), List.take_take, Nat.min_eq_left horder]
      have hdrop : (t.take stop ++ rest).drop stop = rest := List.drop_left' htake
      rw [List.foldr_cons, hrest, Edit.apply_eq horder hlength, hkept, hdrop,
        ← Text.take_append_slice_of_le t hstart]
      simp only [List.append_assoc]
    · rw [hback]
      refine .cons ?_ ?_ ?_
      · dsimp only
        omega
      · dsimp only
        omega
      · have hnext : earliest + (t.slice earliest start).length + (t.slice start stop).length =
            stop := by omega
        rw [hnext]
        exact hlater

/-- An edit that is passed over starts before the bound, or before an earlier edit that is kept
stops. -/
theorem exists_dropped_keepApart (lastStop : Int) (edits : List Edit) :
    ∃ dropped, (keepApart lastStop edits ++ dropped).Perm edits ∧ ∀ edit ∈ dropped,
      edit.start < lastStop ∨ ∃ earlier ∈ keepApart lastStop edits,
        [earlier, edit].Sublist edits ∧ edit.start < earlier.stop := by
  induction edits generalizing lastStop with
  | nil => exact ⟨[], List.Perm.refl [], nofun⟩
  | cons first later ih =>
    rw [keepApart]
    split
    · next hearly =>
      obtain ⟨dropped, hperm, hdropped⟩ := ih lastStop
      refine ⟨first :: dropped, List.perm_middle.trans (hperm.cons first),
        List.forall_mem_cons.mpr ⟨.inl hearly, fun edit hedit => ?_⟩⟩
      refine (hdropped edit hedit).imp_right ?_
      rintro ⟨earlier, hearlier, hsublist, hstart⟩
      exact ⟨earlier, hearlier, hsublist.cons first, hstart⟩
    · obtain ⟨dropped, hperm, hdropped⟩ := ih first.stop
      refine ⟨dropped, hperm.cons first, fun edit hedit => .inr ?_⟩
      have hlater : edit ∈ later := hperm.subset (List.mem_append_right _ hedit)
      rcases hdropped edit hedit with hstart | ⟨earlier, hearlier, hsublist, hstart⟩
      · have hsublist : [first, edit].Sublist (first :: later) :=
          (List.singleton_sublist.mpr hlater).cons_cons first
        exact ⟨first, List.mem_cons_self, hsublist, hstart⟩
      · exact ⟨earlier, List.mem_cons_of_mem _ hearlier, hsublist.cons first, hstart⟩

namespace Edit

/-- Edits are in the order of their starts and, at one start, from the longest. -/
theorem precedes_iff {a b : Edit} :
    a.precedes b = true ↔ a.start < b.start ∨ a.start = b.start ∧ b.stop ≤ a.stop := by
  rw [precedes, Bool.or_eq_true, Bool.and_eq_true, decide_eq_true_eq, decide_eq_true_eq,
    decide_eq_true_eq]

/-- Edits are tried in their order. -/
theorem pairwise_precedes (edits : List Edit) :
    (edits.mergeSort precedes).Pairwise fun a b => a.precedes b = true := by
  refine List.pairwise_mergeSort (fun a b c => ?_) (fun a b => ?_) edits
  · simp only [precedes_iff]
    omega
  · rw [Bool.or_eq_true, precedes_iff, precedes_iff]
    omega

end Edit

/-- Edits with different ranges are tried in one order, in whatever order they are given. -/
theorem keptEdits_perm {edits other : List Edit}
    (hdistinct : (edits.map fun edit => (edit.start, edit.stop)).Nodup) (hperm : other.Perm edits) :
    keptEdits other = keptEdits edits := by
  have hsame : ∀ a b : Edit, a ∈ edits.mergeSort Edit.precedes → b ∈ other.mergeSort Edit.precedes →
      a.precedes b = true → b.precedes a = true → a = b := by
    intro a b ha hb hab hba
    rw [Edit.precedes_iff] at hab hba
    have hstart : a.start = b.start := by omega
    have hstop : a.stop = b.stop := by omega
    refine List.inj_on_of_nodup_map hdistinct (List.mem_mergeSort.mp ha)
      (hperm.subset (List.mem_mergeSort.mp hb)) ?_
    rw [hstart, hstop]
  have hordered : edits.mergeSort Edit.precedes = other.mergeSort Edit.precedes :=
    List.Perm.eq_of_pairwise hsame (Edit.pairwise_precedes edits) (Edit.pairwise_precedes other)
      ((List.mergeSort_perm edits _).trans (hperm.symm.trans (List.mergeSort_perm other _).symm))
  rw [keptEdits, keptEdits, hordered]

/-- An edit comes in the way of another one: it is tried earlier, and the other one starts before
it stops. -/
structure Edit.Blocks (ordered : List Edit) (earlier edit : Edit) : Prop where
  /-- Of the edits in their order it comes first. -/
  sublist : [earlier, edit].Sublist ordered
  /-- It starts earlier, or at the same offset and does not stop earlier. -/
  precedes : earlier.precedes edit = true
  /-- The other edit starts before it stops. -/
  start_lt : edit.start < earlier.stop

/-- Every edit that is not kept is passed over for an earlier one that is. -/
theorem exists_dropped_keptEdits {edits : List Edit} (hstart : ∀ edit ∈ edits, 0 ≤ edit.start) :
    ∃ dropped, (keptEdits edits ++ dropped).Perm edits ∧ ∀ edit ∈ dropped,
      ∃ earlier ∈ keptEdits edits, earlier.Blocks (edits.mergeSort Edit.precedes) edit := by
  obtain ⟨dropped, hperm, hdropped⟩ :=
    exists_dropped_keepApart (-1) (edits.mergeSort Edit.precedes)
  have hall : (keptEdits edits ++ dropped).Perm edits := hperm.trans (List.mergeSort_perm edits _)
  refine ⟨dropped, hall, fun edit hedit => ?_⟩
  rcases hdropped edit hedit with hbefore | ⟨earlier, hearlier, hsublist, hlt⟩
  · have hpos := hstart edit (hall.subset (List.mem_append_right _ hedit))
    omega
  · have hordered := (Edit.pairwise_precedes edits).sublist hsublist
    exact ⟨earlier, hearlier, hsublist, List.rel_of_pairwise_cons hordered List.mem_cons_self, hlt⟩

/-- An edit between the ends of a text lies in the text. -/
theorem Edit.isIn_of_bounds {length : Nat} {edit : Edit} (hstart : 0 ≤ edit.start)
    (horder : edit.start ≤ edit.stop) (hstop : edit.stop ≤ length) : edit.IsIn length := by
  refine ⟨?_, ?_, ?_, ?_⟩
  all_goals
    simp only [Edit.range]
    omega

/-- Edits are applied as one substitution. The edits that are kept do not overlap, and every other
one is passed over for an earlier one that is kept. The result is the text in which the ranges of
the edits that are kept are replaced and everything else stands in its order, so its length
changes by what these edits add and take away. If no two edits have the same range, the result
does not depend on the order in which they are given. -/
theorem applyEdits_substitutes {t : Text} {edits : List Edit}
    (hin : ∀ edit ∈ edits, 0 ≤ edit.start ∧ edit.start ≤ edit.stop ∧ edit.stop ≤ t.length) :
    let kept := keptEdits edits
    let result := applyEdits t edits
    (kept.Pairwise fun a b => a.stop ≤ b.start) ∧
    (∃ dropped, (kept ++ dropped).Perm edits ∧ ∀ edit ∈ dropped,
      ∃ earlier ∈ kept, earlier.Blocks (edits.mergeSort Edit.precedes) edit) ∧
    Substituted 0 kept t result.1 ∧ result.2 = kept.length ∧
    (result.1.length : Int) = t.length +
      (kept.map fun edit => (edit.replacement.length : Int) - (edit.stop - edit.start)).sum ∧
    ((edits.map fun edit => (edit.start, edit.stop)).Nodup →
      ∀ other, other.Perm edits → applyEdits t other = result) := by
  intro kept result
  have hapart : Apart t.length 0 kept := apart_keptEdits fun edit hedit =>
    Edit.isIn_of_bounds (hin edit hedit).1 (hin edit hedit).2.1 (hin edit hedit).2.2
  have hsubstituted : Substituted 0 kept t result.1 := by
    obtain ⟨rest, hrest, hall⟩ := hapart.exists_substituted
    have hresult : result.1 = rest := hrest
    rw [hresult]
    exact hall
  refine ⟨hapart.pairwise_stop_le, exists_dropped_keptEdits fun edit hedit => (hin edit hedit).1,
    hsubstituted, rfl, hsubstituted.length_eq, fun hdistinct other hperm => ?_⟩
  have hsame : keptEdits other = kept := keptEdits_perm hdistinct hperm
  rw [applyEdits, hsame]
  rfl

/-- Of edits that start together the longest is kept; what starts in it is passed over, and an
empty range behind it is not. -/
theorem applyEdits_substitutes_touching :
    let t : Text := "abcdef"
    let edits : List Edit :=
      [⟨0, 4, "YY"⟩, ⟨0, 2, "Z"⟩, ⟨2, 4, "X"⟩, ⟨3, 5, []⟩, ⟨4, 4, "-"⟩]
    (∀ edit ∈ edits, 0 ≤ edit.start ∧ edit.start ≤ edit.stop ∧ edit.stop ≤ t.length) ∧
      (edits.map fun edit => (edit.start, edit.stop)).Nodup ∧
      applyEdits t edits = (Text.ofString "YY-ef", 2) ∧
      Substituted 0 [⟨0, 4, "YY"⟩, ⟨4, 4, "-"⟩] t "YY-ef" ∧
      applyEdits t edits.reverse = (Text.ofString "YY-ef", 2) := by
  intro t edits
  have hin : ∀ edit ∈ edits, 0 ≤ edit.start ∧ edit.start ≤ edit.stop ∧ edit.stop ≤ t.length := by
    decide
  have hdistinct : (edits.map fun edit => (edit.start, edit.stop)).Nodup := by decide
  have hkept : keptEdits edits = [⟨0, 4, "YY"⟩, ⟨4, 4, "-"⟩] := by
    rw [keptEdits, List.mergeSort_of_pairwise (by decide)]
    decide
  have hresult : applyEdits t edits = (Text.ofString "YY-ef", 2) := by
    rw [applyEdits, hkept]
    decide
  obtain ⟨_, _, hsubstituted, _, _, hperm⟩ := applyEdits_substitutes hin
  rw [hkept, hresult] at hsubstituted
  rw [hresult] at hperm
  exact ⟨hin, hdistinct, hresult, hsubstituted, hperm hdistinct _ (List.reverse_perm edits)⟩

end TemplateLint.Source
