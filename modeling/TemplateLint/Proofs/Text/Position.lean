import Mathlib.Data.List.Induction
import Mathlib.Data.List.TakeWhile
import TemplateLint.Proofs.Text.Part
import TemplateLint.Text.Position

/-!
# Places and what stands in front of them

The place of an offset is told by the text in front of it: its line by the line ends
there, and its column by what comes after the last of them. So the place of a later
offset follows from that of an earlier one and from the text between the two.
-/

namespace TemplateLint

/-- Number of code points after the last line end; all of them without one. -/
def Text.lastLineLength (t : Text) : Nat :=
  t.reverse.idxOf (CodePoint.ofChar '\n')

namespace Text

/-- The last line ends with the later part, and starts in it if a line ends there. -/
theorem lastLineLength_append (t u : Text) :
    (t ++ u).lastLineLength =
      if CodePoint.ofChar '\n' ∈ u then u.lastLineLength else t.lastLineLength + u.length := by
  rw [lastLineLength, List.reverse_append, List.idxOf_append, List.length_reverse]
  simp only [List.mem_reverse, lastLineLength]

/-- The last line is not longer than the text. -/
theorem lastLineLength_le (t : Text) : t.lastLineLength ≤ t.length := by
  rw [lastLineLength, ← List.length_reverse]
  exact List.idxOf_le_length

end Text

namespace LineIndex

/-- The lines of a text come before those of what follows it. -/
theorem laterStarts_append (offset : Nat) (t u : Text) :
    laterStarts offset (t ++ u) = laterStarts offset t ++ laterStarts (offset + t.length) u := by
  induction t generalizing offset with
  | nil => rfl
  | cons c rest ih =>
    have hshift : offset + (c :: rest).length = offset + 1 + rest.length := by
      rw [List.length_cons]
      omega
    rw [hshift, List.cons_append, laterStarts, laterStarts, ih (offset + 1)]
    split <;> rfl

/-- A line starts after the text in front of it and not after the end. -/
theorem bounds_of_mem_laterStarts {offset start : Nat} {t : Text}
    (h : start ∈ laterStarts offset t) : offset < start ∧ start ≤ offset + t.length := by
  induction t generalizing offset with
  | nil => cases h
  | cons c rest ih =>
    rw [List.length_cons]
    rw [laterStarts] at h
    split at h
    · rcases List.mem_cons.mp h with rfl | hlater
      · omega
      · have := ih hlater
        omega
    · have := ih h
      omega

/-- Every line end starts a line. -/
theorem length_laterStarts (offset : Nat) (t : Text) :
    (laterStarts offset t).length = t.count (CodePoint.ofChar '\n') := by
  induction t generalizing offset with
  | nil => rfl
  | cons c rest ih =>
    rw [laterStarts, List.count_cons]
    split
    · next hc => rw [hc, List.length_cons, ih, if_pos (beq_self_eq_true _)]
    · next hc => rw [ih, if_neg (by simpa using hc), Nat.add_zero]

/-- The last line starts where its length says. -/
theorem getLast?_starts (t : Text) :
    (ofText t).starts.getLast? = some (t.length - t.lastLineLength) := by
  induction t using List.reverseRecOn with
  | nil => rfl
  | append_singleton front c ih =>
    have hle := Text.lastLineLength_le front
    rw [ofText] at ih ⊢
    rw [Text.lastLineLength_append, laterStarts_append, ← List.cons_append, List.getLast?_append,
      ih, Nat.zero_add, List.length_append, List.length_singleton]
    by_cases hc : c = '\n'
    · have hmem : CodePoint.ofChar '\n' ∈ [c] := List.mem_singleton.mpr hc.symm
      rw [laterStarts, if_pos hc, if_pos hmem, laterStarts, hc]
      rfl
    · have hmem : ¬ CodePoint.ofChar '\n' ∈ [c] := fun h => hc (List.mem_singleton.mp h).symm
      rw [laterStarts, if_neg hc, if_neg hmem, laterStarts]
      simp only [List.getLast?_nil, Option.none_or, Option.some.injEq]
      omega

/-- The lines that start at or before an offset are those of the text in front of it. -/
theorem takeWhile_starts (t : Text) (offset : Nat) :
    ((ofText t).starts.takeWhile fun (start : Nat) => decide ((start : Int) ≤ (offset : Int))) =
      (ofText (t.take offset)).starts := by
  have hsplit : (ofText t).starts = (ofText (t.take offset)).starts ++
      laterStarts (t.take offset).length (t.drop offset) := by
    rw [ofText, ofText, List.cons_append, ← Nat.zero_add (t.take offset).length,
      ← laterStarts_append, List.take_append_drop]
  have hfront : ∀ start ∈ (ofText (t.take offset)).starts,
      decide ((start : Int) ≤ (offset : Int)) = true := by
    intro start hstart
    have hle : (t.take offset).length ≤ offset := by
      rw [List.length_take]
      omega
    rcases List.mem_cons.mp hstart with rfl | hlater
    · exact decide_eq_true (by omega)
    · have := bounds_of_mem_laterStarts hlater
      exact decide_eq_true (by omega)
  rw [hsplit, List.takeWhile_append_of_pos hfront]
  by_cases hend : t.length ≤ offset
  · rw [List.drop_eq_nil_of_le hend, laterStarts, List.takeWhile_nil, List.append_nil]
  · have hlength : (t.take offset).length = offset := by
      rw [List.length_take]
      omega
    have hback : (laterStarts (t.take offset).length (t.drop offset)).takeWhile
        (fun (start : Nat) => decide ((start : Int) ≤ (offset : Int))) = [] := by
      rw [List.takeWhile_eq_nil_iff]
      intro hpos
      have := bounds_of_mem_laterStarts (List.getElem_mem hpos)
      simp only [decide_eq_true_eq, List.get_eq_getElem]
      omega
    rw [hback, List.append_nil]

/-- The place of any offset, be it behind the text: one line more than lines end in front of it,
and a column counted from the start of the last of these lines. -/
theorem locate_take (t : Text) (offset : Nat) :
    (ofText t).locate offset =
      ⟨(t.take offset).count (CodePoint.ofChar '\n') + 1,
        offset - ((t.take offset).length - Text.lastLineLength (t.take offset) : Nat) + 1⟩ := by
  have hcount : (ofText (t.take offset)).starts.length =
      (t.take offset).count (CodePoint.ofChar '\n') + 1 := by
    rw [ofText, List.length_cons, length_laterStarts]
  rw [locate, takeWhile_starts, getLast?_starts, hcount]
  rfl

/-- The place of an offset of a text: one line more than lines end in front of it, and one
column more than code points of the last line stand there. -/
theorem locate_ofText {t : Text} {offset : Nat} (h : offset ≤ t.length) :
    (ofText t).locate offset =
      ⟨(t.take offset).count (CodePoint.ofChar '\n') + 1,
        Text.lastLineLength (t.take offset) + 1⟩ := by
  have hle := Text.lastLineLength_le (t.take offset)
  rw [List.length_take, Nat.min_eq_left h] at hle
  rw [locate_take, List.length_take, Nat.min_eq_left h]
  simp only [Position.mk.injEq, true_and]
  omega

/-- The place of a later offset: without a line end in between the column moves on, and
otherwise the text in between tells the line and the column. -/
theorem locate_add {t : Text} {offset count : Nat} (h : offset + count ≤ t.length) :
    (ofText t).locate ((offset + count : Nat) : Int) =
      let between := t.slice offset (offset + count)
      if between.count (CodePoint.ofChar '\n') = 0 then
        ⟨((ofText t).locate offset).line, ((ofText t).locate offset).column + count⟩
      else
        ⟨((ofText t).locate offset).line + between.count (CodePoint.ofChar '\n'),
          between.lastLineLength + 1⟩ := by
  have hlength : (t.slice offset (offset + count)).length = count := by
    rw [Text.length_slice h, Nat.add_sub_cancel_left]
  rw [locate_ofText h, locate_ofText (Nat.le_of_add_right_le h), ← Text.take_append_slice,
    List.count_append, Text.lastLineLength_append, hlength]
  simp only [List.count_eq_zero]
  by_cases hbreak : CodePoint.ofChar '\n' ∈ t.slice offset (offset + count)
  · rw [if_pos hbreak, if_neg (not_not.mpr hbreak)]
    simp only [Position.mk.injEq, Int.natCast_add, and_true]
    omega
  · rw [if_neg hbreak, if_pos hbreak, List.count_eq_zero.mpr hbreak]
    simp only [Position.mk.injEq]
    omega

end LineIndex

end TemplateLint
