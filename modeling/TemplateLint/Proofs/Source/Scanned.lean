import TemplateLint.Proofs.Basic
import TemplateLint.Proofs.Source.Range
import TemplateLint.Source.Call

/-!
# Calls that are read

What is known about a call that is read: its parentheses match, its argument ranges are
those between the outer commas, one for each argument, and they stand in the text one
after the other.
-/

namespace TemplateLint

namespace Outcome

/-- A list of fallible steps gives one result for each. -/
theorem length_of_mapM {ε α β : Type} {f : α → Except ε β} {xs : List α} {ys : List β}
    (h : xs.mapM f = .ok ys) : ys.length = xs.length := by
  induction xs generalizing ys with
  | nil =>
    cases h
    rfl
  | cons x xs ih =>
    rw [List.mapM_cons] at h
    obtain ⟨first, _, h⟩ := bind_eq_ok h
    obtain ⟨rest, hrest, h⟩ := bind_eq_ok h
    cases h
    rw [List.length_cons, List.length_cons, ih hrest]

end Outcome

namespace Source

/-- A call as it is read from a source. -/
structure IsRead (source : Prepared) (scanned : ScannedCall) : Prop where
  /-- Its opening parenthesis ends the head of a call. -/
  openParen_eq : ∃ found ∈ occurrences callHead source.masked,
    scanned.openParen = found.stop - 1
  /-- Its closing parenthesis closes the opening one. -/
  findClosing_eq : findClosing source.masked scanned.openParen = some scanned.closeParen
  /-- Its ranges are those between the outer commas. -/
  ranges_eq : scanned.ranges =
    splitTopLevel source.masked (scanned.openParen + 1) scanned.closeParen
  /-- Every range has an argument. -/
  length_ranges : scanned.ranges.length = scanned.call.arguments.length

/-- Every call of a scan is read from the source. -/
theorem isRead_of_mem_scan {source : Prepared} {scanned : ScannedCall}
    (h : scanned ∈ scan source) : IsRead source scanned := by
  obtain ⟨note, hnote, hscanned⟩ := List.mem_filterMap.mp h
  obtain ⟨head, hhead, hread⟩ := List.mem_filterMap.mp hnote
  unfold readCall? at hread
  dsimp only at hread
  split at hread
  · cases hread
  · split at hread
    · cases hread
      cases hscanned
    · next closing hclosing =>
      split at hread
      · cases hread
        cases hscanned
      · next args hargs =>
        cases hread
        cases hscanned
        exact ⟨⟨head, hhead, rfl⟩, hclosing, rfl, (Outcome.length_of_mapM hargs).symm⟩

/-- Ranges one after the other, the first no earlier than an offset. -/
inductive Consecutive : Nat → List Range → Prop
  /-- There are no more ranges. -/
  | nil {start : Nat} : Consecutive start []
  /-- The first range comes before the others. -/
  | cons {start : Nat} {range : Range} {later : List Range} (hstart : start ≤ range.start)
      (horder : range.start ≤ range.stop) (hlater : Consecutive range.stop later) :
    Consecutive start (range :: later)

namespace Consecutive

variable {start earlier : Nat} {ranges : List Range}

/-- The ranges may start later than they have to. -/
theorem mono (h : Consecutive start ranges) (hle : earlier ≤ start) :
    Consecutive earlier ranges := by
  cases h with
  | nil => exact .nil
  | cons hstart horder hlater => exact .cons (Nat.le_trans hle hstart) horder hlater

/-- The last range does not end before the first one starts. -/
theorem start_le_of_getLast? (h : Consecutive start ranges) {last : Range}
    (hlast : ranges.getLast? = some last) : start ≤ last.stop := by
  induction h with
  | nil => cases hlast
  | @cons start range later hstart horder _ ih =>
    cases later with
    | nil =>
      cases List.getLast?_singleton.symm.trans hlast
      omega
    | cons second rest =>
      rw [List.getLast?_cons_cons] at hlast
      have hrest := ih hlast
      omega

end Consecutive

/-- The ranges of consecutive parts come one after the other. -/
theorem consecutive_partRanges (start : Nat) (parts : List Text) :
    Consecutive start (partRanges start parts) := by
  induction parts generalizing start with
  | nil => exact .nil
  | cons part parts ih =>
    obtain ⟨hstart, horder, hstop⟩ := trimmedRange_bounds start part
    exact .cons hstart horder ((ih _).mono (Nat.le_trans hstop (Nat.le_succ _)))

/-- The ranges between the outer commas come one after the other. -/
theorem consecutive_splitTopLevel {t : Text} {start stop : Nat} (hle : start ≤ stop) :
    Consecutive start (splitTopLevel t start stop) := by
  have hparts := consecutive_partRanges start (commaParts 0 (t.slice start stop))
  rw [splitTopLevel, if_neg (Nat.not_lt.mpr hle)]
  split
  · next range hrange =>
    split
    · exact .nil
    · rw [← hrange]
      exact hparts
  · exact hparts

namespace IsRead

variable {source : Prepared} {scanned : ScannedCall}

/-- The arguments of a call come one after the other behind its opening parenthesis. -/
theorem consecutive (h : IsRead source scanned) :
    Consecutive (scanned.openParen + 1) scanned.ranges := by
  rw [h.ranges_eq]
  exact consecutive_splitTopLevel (bounds_of_findClosing h.findClosing_eq).1

/-- The arguments of a call end in the source. -/
theorem stop_le_length (h : IsRead source scanned) {range : Range}
    (hrange : range ∈ scanned.ranges) : range.stop ≤ source.masked.length := by
  have hclose := bounds_of_findClosing h.findClosing_eq
  rw [h.ranges_eq] at hrange
  have hbounds := bounds_of_mem_splitTopLevel hclose.1 hrange
  omega

end IsRead

end Source

end TemplateLint
