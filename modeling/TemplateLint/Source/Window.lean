import TemplateLint.Source.Bracket

/-!
# Windows

A window is a run of consecutive offsets. An offset before the text counts back from
the end of the text, so a window that starts there reads the end of the text first
and goes on at its start. A window that leaves the text altogether cannot be read.
-/

namespace TemplateLint.Source

/-- A window leaves the text. -/
structure OutOfText where
  deriving DecidableEq

/-- Wording of the refusal. -/
def OutOfText.message (_ : OutOfText) : Text :=
  "string index out of range"

/-- The code points at the offsets from `start` up to, and without, `stop`. -/
def window (t : Text) (start stop : Int) : Except OutOfText Text :=
  if stop ≤ start then .ok []
  else if start < -(t.length : Int) ∨ (t.length : Int) < stop then .error {}
  else if start < 0 then
    .ok ((t.drop (start + t.length).toNat ++ t).take (stop - start).toNat)
  else .ok (t.slice start.toNat stop.toNat)

/-- Offset of the bracket that closes the first one opened at or after `start`. -/
def closingAt (t : Text) (start : Int) : Except OutOfText (Option Int) :=
  (window t start t.length).map fun part =>
    (closingFrom 0 [] part).map fun (distance : Nat) => start + (distance : Int)

/-- The bounds between the outer commas of a window, without the blanks at their ends. -/
def splitWindow (t : Text) (start stop : Int) : Except OutOfText (List (Int × Int)) :=
  if stop < start then .ok [(start, stop)]
  else
    (window t start stop).map fun part =>
      (splitTopLevel part 0 part.length).map fun range =>
        (start + range.start, start + range.stop)

/-- The code points between two bounds, each taken as a cut of the text. -/
def between (t : Text) (bounds : Int × Int) : Text :=
  if bounds.2 < bounds.1 then [] else t.slice (t.cutAt bounds.1) (t.cutAt bounds.2)

/-- The offset at which a search starts moves its result. -/
theorem closingFrom_add (distance offset : Nat) (awaited : List CodePoint) (t : Text) :
    closingFrom (distance + offset) awaited t =
      (closingFrom offset awaited t).map (distance + ·) := by
  induction t generalizing offset awaited with
  | nil => rfl
  | cons c rest ih =>
    unfold closingFrom
    split
    · exact ih (offset + 1) _
    · split
      · split
        · rfl
        · split
          · rfl
          · split
            · rfl
            · exact ih (offset + 1) _
      · exact ih (offset + 1) _

/-- At an offset of the text the window search is the plain search. -/
theorem closingAt_ofNat (t : Text) (start : Nat) :
    closingAt t start = .ok ((findClosing t start).map Int.ofNat) := by
  have hshift := closingFrom_add start 0 [] (t.drop start)
  unfold closingAt window
  split
  · next hstop =>
    have hdrop : t.drop start = [] := List.drop_eq_nil_of_le (by omega)
    rw [findClosing, hdrop]
    rfl
  · rw [if_neg (by omega), if_neg (by omega)]
    have hall : t.slice (start : Int).toNat (t.length : Int).toNat = t.drop start := by
      simp only [Text.slice, Int.toNat_natCast]
      exact List.take_of_length_le (by simp only [List.length_drop]; omega)
    rw [Nat.add_zero] at hshift
    rw [Except.map, hall, findClosing, hshift, Option.map_map]
    rfl

/-- A range that is moved to the right. -/
def Range.shift (offset : Nat) (range : Range) : Range :=
  ⟨offset + range.start, offset + range.stop⟩

/-- The offset at which consecutive parts start moves their ranges. -/
theorem partRanges_add (offset start : Nat) (parts : List Text) :
    partRanges (offset + start) parts = (partRanges start parts).map (Range.shift offset) := by
  induction parts generalizing start with
  | nil => rfl
  | cons part parts ih =>
    have hfirst : trimmedRange (offset + start) part =
        (trimmedRange start part).shift offset := by
      simp only [trimmedRange, Range.shift, Nat.add_assoc]
    have hnext : offset + start + part.length + 1 = offset + (start + part.length + 1) := by
      omega
    rw [partRanges, partRanges, List.map_cons, hfirst, hnext, ih]

/-- A part of a text may be split on its own. -/
theorem map_shift_splitTopLevel {t : Text} {start stop : Nat} (h : start ≤ stop) :
    (splitTopLevel (t.slice start stop) 0 (t.slice start stop).length).map (Range.shift start) =
      splitTopLevel t start stop := by
  have hwhole : (t.slice start stop).slice 0 (t.slice start stop).length = t.slice start stop :=
    List.take_length
  have hranges := partRanges_add start 0 (commaParts 0 (t.slice start stop))
  rw [splitTopLevel, splitTopLevel, if_neg (Nat.not_lt_zero _), if_neg (Nat.not_lt.mpr h), hwhole]
  rw [Nat.add_zero] at hranges
  rw [hranges]
  match partRanges 0 (commaParts 0 (t.slice start stop)) with
  | [] => rfl
  | [range] =>
    have hempty : (range.shift start).start = (range.shift start).stop ↔
        range.start = range.stop := Nat.add_left_cancel_iff
    simp only [List.map_cons, List.map_nil, hempty]
    split <;> rfl
  | _ :: _ :: _ => rfl

/-- Between offsets of the text the window is split as the text is. -/
theorem splitWindow_ofNat {t : Text} (start : Nat) {stop : Nat} (h : stop ≤ t.length) :
    splitWindow t start stop = .ok ((splitTopLevel t start stop).map fun range =>
      ((range.start : Int), (range.stop : Int))) := by
  unfold splitWindow
  split
  · next hstop =>
    rw [splitTopLevel, if_pos (by omega)]
    rfl
  · next hstop =>
    have hwindow : window t start stop = .ok (t.slice start stop) := by
      unfold window
      split
      · have hnone : stop - start = 0 := by omega
        rw [Text.slice, hnone]
        rfl
      · rw [if_neg (by omega), if_neg (by omega)]
        rfl
    rw [hwindow, ← map_shift_splitTopLevel (by omega), List.map_map]
    rfl

/-- Between offsets the code points are those of the range. -/
theorem between_ofNat (t : Text) (range : Range) :
    between t (range.start, range.stop) = range.of t := by
  have hcut : ∀ offset : Nat, t.cutAt offset = min offset t.length := fun _ => if_neg (by omega)
  unfold between Range.of
  split
  · next hstop =>
    have hnone : range.stop - range.start = 0 := by omega
    rw [Text.slice, hnone]
    rfl
  · rw [hcut, hcut, Text.slice, Text.slice]
    by_cases hstart : range.start ≤ t.length
    · rw [Nat.min_eq_left hstart, List.take_eq_take_iff, List.length_drop]
      omega
    · have hnone : t.drop range.start = [] := List.drop_eq_nil_of_le (by omega)
      rw [Nat.min_eq_right (Nat.le_of_not_le hstart), List.drop_length, hnone, List.take_nil,
        List.take_nil]

end TemplateLint.Source
