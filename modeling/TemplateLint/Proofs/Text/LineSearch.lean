import Mathlib.Data.Int.ConditionallyCompleteOrder
import Mathlib.Data.Prod.Lex
import Mathlib.Order.ConditionallyCompleteLattice.Basic
import TemplateLint.Proofs.Text.Position

/-!
# Places in order

The starts of the lines increase, so the line of an offset can be sought by halving the table of
starts. Main statement: the search finds the place of every offset and never leaves the table;
the place tells how many lines end in front of the offset and how far behind the last line end it
is. So it gives the offset back, and a later offset has a later place.
-/

namespace TemplateLint

namespace Text

/-- The last line end of a text stands at an offset, or at -1 if no line ends. -/
inductive LastBreak : Text → Int → Prop
  /-- No line ends. -/
  | none {line : Text} (hline : CodePoint.ofChar '\n' ∉ line) : LastBreak line (-1)
  /-- One line follows a line end. -/
  | found (front : Text) {line : Text} (hline : CodePoint.ofChar '\n' ∉ line) :
    LastBreak (front ++ CodePoint.ofChar '\n' :: line) front.length

/-- More of the last line does not move the last line end. -/
theorem LastBreak.append {t line : Text} {place : Int} (h : LastBreak t place)
    (hline : CodePoint.ofChar '\n' ∉ line) : LastBreak (t ++ line) place := by
  cases h with
  | none hfront => exact .none (List.not_mem_append hfront hline)
  | found front hlast =>
    rw [List.append_assoc, List.cons_append]
    exact .found front (List.not_mem_append hlast hline)

/-- Without a line end the last line is the text. -/
theorem lastLineLength_of_not_mem {t : Text} (h : CodePoint.ofChar '\n' ∉ t) :
    t.lastLineLength = t.length := by
  rw [lastLineLength, ← List.length_reverse]
  exact List.idxOf_eq_length (fun hmem => h (List.mem_reverse.mp hmem))

/-- The last line starts behind the last line end. -/
theorem LastBreak.eq {t : Text} {place : Int} (h : LastBreak t place) :
    place = t.length - t.lastLineLength - 1 := by
  cases h with
  | none hline =>
    rw [lastLineLength_of_not_mem hline]
    omega
  | @found front line hline =>
    have hbreak : CodePoint.ofChar '\n' ∈ CodePoint.ofChar '\n' :: line := List.mem_cons_self
    have hlast : lastLineLength (CodePoint.ofChar '\n' :: line) = line.length := by
      rw [← List.singleton_append, lastLineLength_append, if_neg hline]
      exact Nat.zero_add _
    rw [lastLineLength_append, if_pos hbreak, hlast, List.length_append, List.length_cons]
    omega

/-- Every text has a last line end. -/
theorem lastBreak (t : Text) : LastBreak t (t.length - t.lastLineLength - 1) := by
  have hexists : ∃ place, LastBreak t place := by
    induction t using List.reverseRecOn with
    | nil => exact ⟨-1, .none List.not_mem_nil⟩
    | append_singleton front c ih =>
      by_cases hc : c = '\n'
      · rw [hc]
        exact ⟨front.length, .found front List.not_mem_nil⟩
      · obtain ⟨place, hplace⟩ := ih
        exact ⟨place, hplace.append fun hmem => hc (List.mem_singleton.mp hmem).symm⟩
  obtain ⟨place, hplace⟩ := hexists
  rw [← hplace.eq]
  exact hplace

end Text

/-- A place as a pair, to be compared first by the line and then by the column. -/
def Position.key (place : Position) : Int ×ₗ Int :=
  toLex (place.line, place.column)

namespace LineIndex

/-- Number of the lines that start at or before an offset, sought between two bounds by halving.
There is no answer if a start outside the table is asked for. -/
def bisect? (index : LineIndex) (offset : Int) (low high : Nat) : Option Nat :=
  if low < high then
    match index.starts[(low + high) / 2]? with
    | none => none
    | some start =>
      if offset < start then bisect? index offset low ((low + high) / 2)
      else bisect? index offset ((low + high) / 2 + 1) high
  else some low
termination_by high - low

/-- The place of an offset, whose line is sought by halving. The column of an offset in front of
the text is counted from the start of the last line. -/
def search? (index : LineIndex) (offset : Int) : Option Position := do
  let reached ← index.bisect? offset 0 index.starts.length
  let start ← if reached = 0 then index.starts.getLast? else index.starts[reached - 1]?
  return ⟨reached, offset - start + 1⟩

/-- The offset of a place, if the table has the line. -/
def offsetOf? (index : LineIndex) (place : Position) : Option Int :=
  index.starts[(place.line - 1).toNat]?.map fun (start : Nat) => (start : Int) + place.column - 1

/-- The starts at or before an offset. -/
def reached (index : LineIndex) (offset : Int) : List Nat :=
  index.starts.takeWhile fun (start : Nat) => decide ((start : Int) ≤ offset)

/-- The place of an offset, with the starts that are reached. -/
theorem locate_eq (index : LineIndex) (offset : Int) :
    index.locate offset = ⟨(index.reached offset).length, offset -
      (((index.reached offset).getLast?.orElse fun _ => index.starts.getLast?).getD 0 : Nat) + 1⟩ :=
  rfl

/-- The starts of later lines increase. -/
theorem pairwise_laterStarts (offset : Nat) (t : Text) :
    (laterStarts offset t).Pairwise (· < ·) := by
  induction t generalizing offset with
  | nil => exact .nil
  | cons c rest ih =>
    rw [laterStarts]
    split
    · exact List.pairwise_cons.mpr
        ⟨fun start hstart => (bounds_of_mem_laterStarts hstart).1, ih (offset + 1)⟩
    · exact ih (offset + 1)

/-- The starts of the lines of a text increase. -/
theorem pairwise_starts (t : Text) : (ofText t).starts.Pairwise (· < ·) :=
  List.pairwise_cons.mpr
    ⟨fun _ hstart => (bounds_of_mem_laterStarts hstart).1, pairwise_laterStarts 0 t⟩

/-- In an increasing table the starts at or before an offset are the first ones. -/
theorem le_iff_lt_length_takeWhile {starts : List Nat} (hsorted : starts.Pairwise (· < ·))
    {i start : Nat} (hstart : starts[i]? = some start) (offset : Int) :
    (start : Int) ≤ offset ↔
      i < (starts.takeWhile fun (start : Nat) => decide ((start : Int) ≤ offset)).length := by
  induction starts generalizing i with
  | nil => cases hstart
  | cons first rest ih =>
    obtain ⟨hfirst, hrest⟩ := List.pairwise_cons.mp hsorted
    rw [List.takeWhile_cons]
    by_cases hle : (first : Int) ≤ offset
    · rw [if_pos (decide_eq_true hle), List.length_cons]
      cases i with
      | zero =>
        cases hstart
        exact iff_of_true hle (Nat.succ_pos _)
      | succ i => exact (ih hrest hstart).trans Nat.succ_lt_succ_iff.symm
    · rw [if_neg (by simpa using hle)]
      refine iff_of_false (fun hlater => hle ?_) (Nat.not_lt_zero i)
      cases i with
      | zero =>
        cases hstart
        exact hlater
      | succ i =>
        have hlt : first < start := hfirst start (List.mem_of_getElem? hstart)
        omega

section Search

variable {index : LineIndex} {offset : Int}

/-- Halving finds the number of lines that are reached, if it lies between the bounds. -/
theorem bisect?_eq {count low high : Nat}
    (hcount : ∀ i start : Nat, index.starts[i]? = some start →
      ((start : Int) ≤ offset ↔ i < count))
    (hlow : low ≤ count) (hhigh : count ≤ high) (hlength : high ≤ index.starts.length) :
    index.bisect? offset low high = some count := by
  fun_induction bisect? index offset low high with
  | case1 low high hlt hnone =>
    have hmiddle := List.getElem?_eq_none_iff.mp hnone
    omega
  | case2 low high hlt start hstart hbefore ih =>
    have hiff := hcount _ start hstart
    exact ih hlow (by omega) (by omega)
  | case3 low high hlt start hstart hreached ih =>
    have hiff := hcount _ start hstart
    exact ih (by omega) hhigh hlength
  | case4 low high hge => rw [Nat.le_antisymm hlow (by omega)]

/-- If a line is reached, the last one that is reached has the place. -/
theorem exists_start_of_reached (h : index.reached offset ≠ []) :
    ∃ start, index.starts[(index.reached offset).length - 1]? = some start ∧
      index.locate offset = ⟨(index.reached offset).length, offset - start + 1⟩ := by
  have hlast := List.getLast?_eq_some_getLast h
  refine ⟨(index.reached offset).getLast h, ?_, ?_⟩
  · obtain ⟨later, hlater⟩ : index.reached offset <+: index.starts := List.takeWhile_prefix _
    have hpos := List.length_pos_iff.mpr h
    rw [← hlater, List.getElem?_append_left (by omega), ← List.getLast?_eq_getElem?, hlast]
  · rw [locate_eq, hlast]
    rfl

/-- Halving an increasing table finds the place of every offset. -/
theorem search?_eq_locate (hsorted : index.starts.Pairwise (· < ·)) (hne : index.starts ≠ [])
    (offset : Int) : index.search? offset = some (index.locate offset) := by
  have hbisect : index.bisect? offset 0 index.starts.length =
      some (index.reached offset).length :=
    bisect?_eq (fun _ _ hstart => le_iff_lt_length_takeWhile hsorted hstart offset)
      (Nat.zero_le _) (List.takeWhile_prefix _).length_le (Nat.le_refl _)
  rw [search?, hbisect]
  by_cases hempty : index.reached offset = []
  · -- the offset stands in front of the text
    rw [locate_eq, hempty, List.getLast?_eq_some_getLast hne]
    rfl
  · obtain ⟨start, hstart, hlocate⟩ := exists_start_of_reached hempty
    have hpos : (index.reached offset).length ≠ 0 := fun hzero =>
      hempty (List.length_eq_zero_iff.mp hzero)
    simp only [Option.bind_eq_bind, Option.bind_some, if_neg hpos, hstart, hlocate]
    rfl

end Search

/-- The place of an offset gives the offset back. -/
theorem offsetOf?_locate (t : Text) (offset : Nat) :
    (ofText t).offsetOf? ((ofText t).locate offset) = some (offset : Int) := by
  have hreached : (ofText t).reached offset ≠ [] := by
    rw [reached, takeWhile_starts, ofText]
    exact List.cons_ne_nil _ _
  obtain ⟨start, hstart, hlocate⟩ := exists_start_of_reached hreached
  have hline : (((ofText t).reached offset).length - 1 : Int).toNat =
      ((ofText t).reached offset).length - 1 := by omega
  rw [hlocate, offsetOf?, hline, hstart, Option.map_some]
  dsimp only
  congr 1
  omega

/-- The place of an offset, by the lines that end in front of it. -/
theorem exists_lastBreak (t : Text) (offset : Nat) :
    ∃ place, Text.LastBreak (t.take offset) place ∧
      (ofText t).locate offset =
        ⟨1 + (t.take offset).count (CodePoint.ofChar '\n'), offset - place⟩ := by
  have hle := Text.lastLineLength_le (t.take offset)
  refine ⟨_, Text.lastBreak (t.take offset), ?_⟩
  rw [locate_take, Position.mk.injEq]
  omega

/-- A later offset has a later place. -/
theorem locate_lt {t : Text} {offset later : Nat} (h : offset < later) :
    ((ofText t).locate offset).key < ((ofText t).locate later).key := by
  obtain ⟨place, hplace, hlocate⟩ := exists_lastBreak t offset
  obtain ⟨place', hplace', hlocate'⟩ := exists_lastBreak t later
  have htake := Text.take_append_slice_of_le t (Nat.le_of_lt h)
  rw [Position.key, Position.key, Prod.Lex.toLex_lt_toLex, hlocate, hlocate', ← htake,
    List.count_append]
  by_cases hbreak : CodePoint.ofChar '\n' ∈ t.slice offset later
  · have hpos := List.count_pos_iff.mpr hbreak
    left
    dsimp only
    omega
  · -- both offsets are on one line
    have hsame := hplace.append hbreak
    rw [htake] at hsame
    have hcount := List.count_eq_zero.mpr hbreak
    have heq := hsame.eq.trans hplace'.eq.symm
    right
    dsimp only
    omega

/-- Places are exact and can be inverted. The table is searched without leaving it; the line of
an offset, which may lie behind the text, is one more than the line ends in front of it, and its
column is the distance to the last of them. The place gives the offset back, and places are in
the order of their offsets, so no two offsets share one. -/
theorem locate_is_exact (t : Text) :
    let index := ofText t
    (∀ offset : Int, index.search? offset = some (index.locate offset)) ∧
      (∀ offset : Nat, ∃ place, Text.LastBreak (t.take offset) place ∧
        index.locate offset =
          ⟨1 + (t.take offset).count (CodePoint.ofChar '\n'), offset - place⟩) ∧
      (∀ offset : Nat, index.offsetOf? (index.locate offset) = some (offset : Int)) ∧
      StrictMono (fun offset : Nat => (index.locate offset).key) ∧
      Function.Injective fun offset : Nat => index.locate offset := by
  intro index
  have hmono : StrictMono fun offset : Nat => (index.locate offset).key :=
    fun _ _ hlt => locate_lt hlt
  exact ⟨search?_eq_locate (pairwise_starts t) (List.cons_ne_nil _ _), exists_lastBreak t,
    offsetOf?_locate t, hmono, .of_comp (f := Position.key) hmono.injective⟩

-- on a line end, right behind it and behind the text
example : ([1, 2, 9] : List Int).map (ofText "a\n\nb").locate = [⟨1, 2⟩, ⟨2, 1⟩, ⟨3, 7⟩] := by
  decide

end LineIndex

end TemplateLint
