import TemplateLint.Source.Bracket

/-!
# Argument ranges in their list

The bracket that closes another one comes after it and in the text. The parts of an
argument list with a comma between neighbours have the length of the list, and trimming
a part only takes code points away, so every argument range lies in the list.
-/

namespace TemplateLint.Source

/-- The closing bracket is in the text, and not at its front unless a bracket is open. -/
theorem bounds_of_closingFrom {offset closing : Nat} {awaited : List CodePoint} {t : Text}
    (h : closingFrom offset awaited t = some closing) :
    offset ≤ closing ∧ closing < offset + t.length ∧ (awaited = [] → offset < closing) := by
  fun_induction closingFrom offset awaited t with
  | case1 => cases h
  | case2 offset awaited c rest closer _ ih =>
    have hlater := ih h
    rw [List.length_cons]
    exact ⟨by omega, by omega, fun _ => by omega⟩
  | case3 => cases h
  | case4 => cases h
  | case5 =>
    cases h
    rw [List.length_cons]
    exact ⟨by omega, by omega, nofun⟩
  | case6 offset c rest _ _ closer outer _ _ ih =>
    have hlater := ih h
    rw [List.length_cons]
    exact ⟨by omega, by omega, nofun⟩
  | case7 offset awaited c rest _ _ ih =>
    have hlater := ih h
    rw [List.length_cons]
    exact ⟨by omega, by omega, fun _ => by omega⟩

/-- A bracket is closed after its place and in the text. -/
theorem bounds_of_findClosing {t : Text} {start closing : Nat}
    (h : findClosing t start = some closing) : start < closing ∧ closing < t.length := by
  obtain ⟨_, hlt, hne⟩ := bounds_of_closingFrom h
  have hafter := hne rfl
  rw [List.length_drop] at hlt
  omega

/-- Number of code points of some parts with one separator after each. -/
def separatedLength : List Text → Nat
  | [] => 0
  | part :: parts => part.length + 1 + separatedLength parts

/-- The parts between commas and the commas have the length of the text. -/
theorem length_commaParts (depth : Int) (t : Text) :
    separatedLength (commaParts depth t) = t.length + 1 := by
  fun_induction commaParts depth t with
  | case1 => rfl
  | case2 depth c rest _ ih =>
    rw [separatedLength, ih, List.length_cons, List.length_nil]
    omega
  | case3 depth c rest _ _ hnil ih =>
    rw [hnil] at ih
    cases ih
  | case4 depth c rest _ _ part parts hparts ih =>
    rw [hparts, separatedLength] at ih
    rw [separatedLength, List.length_cons, List.length_cons]
    omega

/-- Trimming at the left does not lengthen a text. -/
theorem length_trimLeft_le (t : Text) : (Text.trimLeft t).length ≤ t.length :=
  (List.dropWhile_suffix _).length_le

/-- Trimming at the right does not lengthen a text. -/
theorem length_trimRight_le (t : Text) : (Text.trimRight t).length ≤ t.length := by
  have hle := (List.dropWhile_suffix (l := t.reverse) CodePoint.isBlank).length_le
  rw [List.length_reverse] at hle
  rw [Text.trimRight, List.length_reverse]
  exact hle

/-- The trimmed range of a part lies in the part. -/
theorem trimmedRange_bounds (start : Nat) (part : Text) :
    start ≤ (trimmedRange start part).start ∧
      (trimmedRange start part).start ≤ (trimmedRange start part).stop ∧
      (trimmedRange start part).stop ≤ start + part.length := by
  have hleft := length_trimLeft_le part
  have hright := length_trimRight_le (Text.trimLeft part)
  simp only [trimmedRange, Text.trim]
  omega

/-- The ranges of consecutive parts lie in the text that the parts and their separators
make up. -/
theorem bounds_of_mem_partRanges {start : Nat} {parts : List Text} {range : Range}
    (h : range ∈ partRanges start parts) :
    start ≤ range.start ∧ range.start ≤ range.stop ∧
      range.stop < start + separatedLength parts := by
  induction parts generalizing start with
  | nil => cases h
  | cons part parts ih =>
    rw [separatedLength]
    rcases List.mem_cons.mp h with rfl | hlater
    · have hfirst := trimmedRange_bounds start part
      omega
    · have hrest := ih hlater
      omega

/-- The ranges between the outer commas lie between the ends of the list. -/
theorem bounds_of_mem_splitTopLevel {t : Text} {start stop : Nat} {range : Range}
    (hle : start ≤ stop) (h : range ∈ splitTopLevel t start stop) :
    start ≤ range.start ∧ range.start ≤ range.stop ∧ range.stop ≤ stop := by
  have hmem : range ∈ partRanges start (commaParts 0 (t.slice start stop)) := by
    rw [splitTopLevel, if_neg (Nat.not_lt.mpr hle)] at h
    split at h
    · next only honly =>
      split at h
      · cases h
      · rw [honly]
        exact h
    · exact h
  have hlength : (t.slice start stop).length ≤ stop - start := List.length_take_le _ _
  obtain ⟨hstart, horder, hstop⟩ := bounds_of_mem_partRanges hmem
  rw [length_commaParts] at hstop
  omega

end TemplateLint.Source
