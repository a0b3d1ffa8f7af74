import TemplateLint.Text.Basic

/-!
# Parts of a text

A place is carried from one text to another by saying that the one stands at an offset
of the other. Parts of parts are parts, with the offsets added, and a range of a part is
a range of the whole.
-/

namespace TemplateLint.Text

/-- The part stands in the text and starts at the offset. -/
def IsAt (part t : Text) (offset : Nat) : Prop :=
  ∃ before after : Text, t = before ++ (part ++ after) ∧ before.length = offset

/-- A part ends in its text. -/
theorem IsAt.length_le {part t : Text} {offset : Nat} (h : IsAt part t offset) :
    offset + part.length ≤ t.length := by
  obtain ⟨before, after, rfl, rfl⟩ := h
  simp only [List.length_append]
  omega

/-- A part of a part is a part of the whole. -/
theorem IsAt.trans {part middle t : Text} {inner outer : Nat} (h : IsAt part middle inner)
    (hmiddle : IsAt middle t outer) : IsAt part t (outer + inner) := by
  obtain ⟨before, after, rfl, rfl⟩ := h
  obtain ⟨front, back, rfl, rfl⟩ := hmiddle
  refine ⟨front ++ before, after ++ back, ?_, List.length_append⟩
  simp only [List.append_assoc]

/-- What a text continues with after an offset stands there. -/
theorem IsAt.of_isPrefix {part t : Text} {offset : Nat} (h : part <+: t.drop offset)
    (hle : offset ≤ t.length) : IsAt part t offset := by
  obtain ⟨after, hafter⟩ := h
  refine ⟨t.take offset, after, ?_, List.length_take_of_le hle⟩
  rw [hafter, List.take_append_drop]

/-- A slice stands where it is cut. -/
theorem isAt_slice {t : Text} {start stop : Nat} (hle : start ≤ t.length) :
    IsAt (t.slice start stop) t start :=
  .of_isPrefix (List.take_prefix _ _) hle

/-- What a text holds at an offset stands there, unless it is nothing. -/
theorem eq_nil_or_isAt_of_eq_slice {part t : Text} {offset : Nat}
    (h : part = t.slice offset (offset + part.length)) : part = [] ∨ IsAt part t offset := by
  by_cases hoffset : offset ≤ t.length
  · have hat : IsAt (t.slice offset (offset + part.length)) t offset := isAt_slice hoffset
    rw [← h] at hat
    exact .inr hat
  · have hnone : t.drop offset = [] := List.drop_eq_nil_of_le (by omega)
    rw [slice, hnone, List.take_nil] at h
    exact .inl h

/-- A slice has the length of its range. -/
theorem length_slice {t : Text} {start stop : Nat} (hstop : stop ≤ t.length) :
    (t.slice start stop).length = stop - start := by
  rw [slice, List.length_take, List.length_drop]
  omega

/-- A range of a part is a range of the whole. -/
theorem IsAt.slice_eq {part t : Text} {offset : Nat} (h : IsAt part t offset) {i j : Nat}
    (hj : j ≤ part.length) : t.slice (offset + i) (offset + j) = part.slice i j := by
  obtain ⟨before, after, rfl, rfl⟩ := h
  have hroom : j - i - (part.length - i) = 0 := by omega
  rw [slice, slice, List.drop_append, List.drop_of_length_le (Nat.le_add_right _ _),
    List.nil_append, Nat.add_sub_cancel_left, Nat.add_sub_add_left, List.drop_append,
    List.take_append, List.length_drop, hroom, List.take_zero, List.append_nil]

/-- A text up to a later offset is the text up to an earlier one and the part between. -/
theorem take_append_slice (t : Text) (start length : Nat) :
    t.take start ++ t.slice start (start + length) = t.take (start + length) := by
  rw [slice, Nat.add_sub_cancel_left, List.take_add]

/-- A text up to an offset and the part up to a later one. -/
theorem take_append_slice_of_le (t : Text) {start stop : Nat} (h : start ≤ stop) :
    t.take start ++ t.slice start stop = t.take stop := by
  have htake := take_append_slice t start (stop - start)
  rw [Nat.add_sub_cancel' h] at htake
  exact htake

/-- A part and the text behind it. -/
theorem slice_append_drop (t : Text) {start stop : Nat} (h : start ≤ stop) :
    t.slice start stop ++ t.drop stop = t.drop start := by
  have hdrop : t.drop stop = (t.drop start).drop (stop - start) := by
    rw [List.drop_drop, Nat.add_sub_cancel' h]
  rw [slice, hdrop, List.take_append_drop]

/-- Two slices that touch are one. -/
theorem slice_append_slice {t : Text} {start middle stop : Nat} (hstart : start ≤ middle)
    (hstop : middle ≤ stop) : t.slice start middle ++ t.slice middle stop = t.slice start stop := by
  have hcut : stop - start = (middle - start) + (stop - middle) := by omega
  have hdrop : t.drop middle = (t.drop start).drop (middle - start) := by
    rw [List.drop_drop, Nat.add_sub_cancel' hstart]
  rw [slice, slice, slice, hcut, List.take_add, hdrop]

end TemplateLint.Text
