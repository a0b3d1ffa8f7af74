import Mathlib.Data.List.Basic
import TemplateLint.Text.Basic

/-!
# Cuts at a mark

A cut at the first occurrence of a mark is the inverse of putting a part behind its
mark, as long as the mark does not occur in front.
-/

namespace TemplateLint.Text

/-- A part behind the mark that announces it; nothing for no part. -/
def marked (mark : CodePoint) : Option Text → Text
  | none => []
  | some part => mark :: part

/-- Without the mark there is no cut. -/
theorem cut?_of_not_mem {mark : CodePoint} {t : Text} (h : mark ∉ t) : cut? mark t = none := by
  induction t with
  | nil => rfl
  | cons c rest ih =>
    obtain ⟨hc, hrest⟩ := not_or.mp (List.mem_cons.not.mp h)
    rw [cut?, if_neg (Ne.symm hc), ih hrest]
    rfl

/-- The first mark is where the text is cut. -/
theorem cut?_append {mark : CodePoint} {left : Text} (h : mark ∉ left) (right : Text) :
    cut? mark (left ++ mark :: right) = some (left, right) := by
  induction left with
  | nil => rw [List.nil_append, cut?, if_pos rfl]
  | cons c left ih =>
    obtain ⟨hc, hleft⟩ := not_or.mp (List.mem_cons.not.mp h)
    rw [List.cons_append, cut?, if_neg (Ne.symm hc), ih hleft]
    rfl

/-- A cut leaves no mark in front of it. -/
theorem not_mem_of_cut? {mark : CodePoint} {t left right : Text}
    (h : cut? mark t = some (left, right)) : mark ∉ left := by
  induction t generalizing left with
  | nil => cases h
  | cons c rest ih =>
    rw [cut?] at h
    split at h
    · cases h
      exact List.not_mem_nil
    · next hc =>
      obtain ⟨parts, hparts, he⟩ := Option.map_eq_some_iff.mp h
      cases he
      exact List.mem_cons.not.mpr (not_or.mpr ⟨Ne.symm hc, ih hparts⟩)

/-- A text that is not cut has no mark. -/
theorem not_mem_of_cut?_eq_none {mark : CodePoint} {t : Text} (h : cut? mark t = none) :
    mark ∉ t := by
  intro hmem
  obtain ⟨left, right, rfl, hleft⟩ := List.eq_append_cons_of_mem hmem
  rw [cut?_append hleft] at h
  cases h

/-- The parts in front of the first mark and behind it give the text again. -/
theorem before_append_marked (mark : CodePoint) (t : Text) :
    before mark t ++ marked mark (after? mark t) = t := by
  unfold before after?
  cases h : cut? mark t with
  | none => exact List.append_nil t
  | some parts =>
    obtain ⟨left, right⟩ := parts
    exact (eq_of_cut? h).symm

/-- A part without the mark is found in front of it. -/
theorem before_marked {mark : CodePoint} {left : Text} (h : mark ∉ left) (part : Option Text) :
    before mark (left ++ marked mark part) = left := by
  unfold before
  cases part with
  | none => rw [marked, List.append_nil, cut?_of_not_mem h]
  | some part => rw [marked, cut?_append h]

/-- A part behind the first mark is found there. -/
theorem after?_marked {mark : CodePoint} {left : Text} (h : mark ∉ left) (part : Option Text) :
    after? mark (left ++ marked mark part) = part := by
  unfold after?
  cases part with
  | none =>
    rw [marked, List.append_nil, cut?_of_not_mem h]
    rfl
  | some part =>
    rw [marked, cut?_append h]
    rfl

end TemplateLint.Text
