import Mathlib.Data.List.Perm.Basic
import TemplateLint.Text.Basic

/-!
# The order of texts

Texts are compared code point by code point, and a text comes after its own beginnings. Main
statements: this is a total order, so texts without repetition are sorted in one way only, and
strictly increasing texts are determined by which texts they are.
-/

namespace TemplateLint.Text

/-- Two texts can be compared. -/
theorem le_total (a b : Text) : (le a b || le b a) = true := by
  induction a generalizing b with
  | nil => rfl
  | cons c rest ih =>
    cases b with
    | nil => rfl
    | cons d more =>
      rw [le, le]
      by_cases hcd : c = d
      · rw [if_pos hcd, if_pos hcd.symm]
        exact ih more
      · have hne : c.val ≠ d.val := fun h => hcd (CodePoint.ext h)
        rw [if_neg hcd, if_neg (Ne.symm hcd), Bool.or_eq_true, decide_eq_true_eq, decide_eq_true_eq]
        omega

/-- Two texts that precede each other are equal. -/
theorem le_antisymm {a b : Text} (hab : le a b = true) (hba : le b a = true) : a = b := by
  induction a generalizing b with
  | nil =>
    cases b with
    | nil => rfl
    | cons d more => cases hba
  | cons c rest ih =>
    cases b with
    | nil => cases hab
    | cons d more =>
      rw [le] at hab hba
      by_cases hcd : c = d
      · rw [if_pos hcd] at hab
        rw [if_pos hcd.symm] at hba
        rw [hcd, ih hab hba]
      · rw [if_neg hcd, decide_eq_true_eq] at hab
        rw [if_neg (Ne.symm hcd), decide_eq_true_eq] at hba
        omega

/-- The order of texts is transitive. -/
theorem le_trans {a b c : Text} (hab : le a b = true) (hbc : le b c = true) : le a c = true := by
  induction a generalizing b c with
  | nil => rfl
  | cons x rest ih =>
    cases b with
    | nil => cases hab
    | cons y more =>
      cases c with
      | nil => cases hbc
      | cons z last =>
        rw [le] at hab hbc ⊢
        by_cases hxy : x = y
        · subst hxy
          rw [if_pos rfl] at hab
          split at hbc
          · next hxz =>
            rw [if_pos hxz]
            exact ih hab hbc
          · next hxz =>
            rw [if_neg hxz]
            exact hbc
        · rw [if_neg hxy, decide_eq_true_eq] at hab
          split at hbc
          · next hyz =>
            subst hyz
            rw [if_neg hxy, decide_eq_true_eq]
            exact hab
          · next hyz =>
            rw [decide_eq_true_eq] at hbc
            have hxz : x ≠ z := by
              rintro rfl
              omega
            rw [if_neg hxz, decide_eq_true_eq]
            omega

/-- Every text precedes those behind it and differs from them. -/
def Increasing (ts : List Text) : Prop :=
  ts.Pairwise fun a b => le a b = true ∧ a ≠ b

/-- Sorting keeps the texts. -/
theorem sort_perm (ts : List Text) : (sort ts).Perm ts :=
  List.mergeSort_perm _ _

/-- Texts without repetition are strictly increasing when they are sorted. -/
theorem increasing_sort {ts : List Text} (h : ts.Nodup) : Increasing (sort ts) := by
  have hsorted : (sort ts).Pairwise fun a b => le a b = true :=
    List.pairwise_mergeSort (fun a b c => @le_trans a b c) le_total ts
  exact hsorted.and ((sort_perm ts).nodup_iff.mpr h)

/-- Strictly increasing texts are determined by their members. -/
theorem Increasing.eq_of_mem_iff {ts us : List Text} (hts : Increasing ts) (hus : Increasing us)
    (h : ∀ t, t ∈ ts ↔ t ∈ us) : ts = us := by
  have hperm : ts.Perm us :=
    (List.perm_ext_iff_of_nodup (hts.imp And.right) (hus.imp And.right)).mpr h
  exact hperm.eq_of_pairwise (fun a b _ _ hab hba => le_antisymm hab.1 hba.1) hts hus

end TemplateLint.Text
