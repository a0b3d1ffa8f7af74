import Mathlib.Data.List.InsertIdx
import TemplateLint.Source.Edit

/-!
# Moving an item to the left

An item that is removed at one index and inserted at an earlier one changes places with
the items between the two. The items before the target and after the source stay where
they are, so a move is a permutation that says exactly what stands at every index.
-/

namespace TemplateLint.Source

variable {α β : Type}

/-- An item is inserted between two parts of a list. -/
theorem insertIdx_append_length (left right : List α) (item : α) :
    (left ++ right).insertIdx left.length item = left ++ item :: right := by
  induction left with
  | nil => exact List.insertIdx_zero
  | cons first left ih =>
    rw [List.cons_append, List.length_cons, List.insertIdx_succ_cons, ih, List.cons_append]

/-- A list with an item that is to change places with the items in front of it. -/
structure Shift (α : Type) where
  /-- What stays in front. -/
  left : List α
  /-- What the item is to pass. -/
  middle : List α
  /-- The item. -/
  item : α
  /-- What stays behind. -/
  right : List α

namespace Shift

/-- The list before the change. -/
def before (shift : Shift α) : List α :=
  shift.left ++ shift.middle ++ shift.item :: shift.right

/-- The list after the change. -/
def after (shift : Shift α) : List α :=
  shift.left ++ shift.item :: (shift.middle ++ shift.right)

/-- Index of the item before the change. -/
def source (shift : Shift α) : Nat :=
  (shift.left ++ shift.middle).length

/-- Index of the item after the change. -/
def target (shift : Shift α) : Nat :=
  shift.left.length

/-- The change is a permutation. -/
theorem after_perm (shift : Shift α) : shift.after.Perm shift.before := by
  rw [after, before, List.append_assoc]
  exact List.Perm.append_left _ List.perm_middle.symm

end Shift

/-- A move to the left is the change of places. -/
theorem moveItem_shift (shift : Shift α) :
    moveItem shift.before shift.source shift.target = shift.after := by
  have hitem : shift.before[shift.source]? = some shift.item := by
    rw [Shift.before, Shift.source, List.getElem?_append_right (Nat.le_refl _), Nat.sub_self,
      List.getElem?_cons_zero]
  rw [moveItem, hitem]
  dsimp only
  rw [Shift.before, Shift.source, Shift.target, Shift.after,
    List.eraseIdx_append_of_length_le (Nat.le_refl _), Nat.sub_self, List.eraseIdx_cons_zero,
    List.append_assoc, insertIdx_append_length]

/-- Every move to the left is a change of places. -/
theorem exists_shift {items : List α} {source target : Nat} (hsource : source < items.length)
    (hle : target ≤ source) : ∃ shift : Shift α, shift.before = items ∧
      items[source]? = some shift.item ∧ shift.source = source ∧ shift.target = target := by
  have hfront : items.take target ++ (items.take source).drop target = items.take source := by
    have hcut := List.take_append_drop target (items.take source)
    rw [List.take_take, Nat.min_eq_left hle] at hcut
    exact hcut
  refine ⟨⟨items.take target, (items.take source).drop target, items[source],
    items.drop (source + 1)⟩, ?_, List.getElem?_eq_getElem hsource, ?_, ?_⟩
  · rw [Shift.before, hfront, ← List.drop_eq_getElem_cons hsource, List.take_append_drop]
  · rw [Shift.source, hfront]
    exact List.length_take_of_le (Nat.le_of_lt hsource)
  · exact List.length_take_of_le (Nat.le_trans hle (Nat.le_of_lt hsource))

/-- An item changes places with an earlier one and with everything between the two. -/
theorem exists_shift_of_drop {items front back : List α} {first item : α} {target : Nat}
    (hfirst : items[target]? = some first)
    (hdrop : items.drop (target + 1) = front ++ item :: back) :
    ∃ shift : Shift α, shift.before = items ∧ shift.middle = first :: front ∧ shift.item = item ∧
      shift.source = target + 1 + front.length ∧ shift.target = target := by
  obtain ⟨hlt, hget⟩ := List.getElem?_eq_some_iff.mp hfirst
  have hlength : (items.take target).length = target := List.length_take_of_le (Nat.le_of_lt hlt)
  refine ⟨⟨items.take target, first :: front, item, back⟩, ?_, rfl, rfl, ?_, hlength⟩
  · have hcut := List.take_append_drop target items
    rw [List.drop_eq_getElem_cons hlt, hdrop, hget] at hcut
    rw [Shift.before, List.append_assoc, List.cons_append]
    exact hcut
  · rw [Shift.source, List.length_append, List.length_cons, hlength]
    omega

/-- What stands at an index after a move to the left. -/
theorem getElem?_moveItem {items : List α} {item : α} {source target : Nat}
    (hitem : items[source]? = some item) (hle : target ≤ source) (index : Nat) :
    (moveItem items source target)[index]? =
      if index < target then items[index]?
      else if index = target then some item
      else if index ≤ source then items[index - 1]?
      else items[index]? := by
  have hlt := (List.getElem?_eq_some_iff.mp hitem).1
  have hroom : target ≤ (items.eraseIdx source).length := by
    rw [List.length_eraseIdx_of_lt hlt]
    omega
  rw [moveItem, hitem]
  dsimp only
  rw [List.getElem?_insertIdx]
  split
  · rw [List.getElem?_eraseIdx_of_lt (by omega)]
  · split
    · next htarget => rw [if_pos (htarget ▸ hroom)]
    · split
      · rw [List.getElem?_eraseIdx_of_lt (by omega)]
      · rw [List.getElem?_eraseIdx_of_ge (by omega), Nat.sub_add_cancel (by omega)]

/-- A move keeps the number of items. -/
theorem length_moveItem {items : List α} {source target : Nat} (hsource : source < items.length)
    (hle : target ≤ source) : (moveItem items source target).length = items.length := by
  obtain ⟨shift, rfl, _, rfl, rfl⟩ := exists_shift hsource hle
  rw [moveItem_shift]
  exact shift.after_perm.length_eq

/-- Without the item a move has changed nothing. -/
theorem eraseIdx_moveItem {items : List α} {source : Nat} (hsource : source < items.length)
    (target : Nat) : (moveItem items source target).eraseIdx target = items.eraseIdx source := by
  rw [moveItem, List.getElem?_eq_getElem hsource]
  exact List.eraseIdx_insertIdx_self _

/-- The items may be changed before a move or after it. -/
theorem map_moveItem (f : α → β) (items : List α) (source target : Nat) :
    (moveItem items source target).map f = moveItem (items.map f) source target := by
  rw [moveItem, moveItem, List.getElem?_map]
  cases items[source]? with
  | none => rfl
  | some item =>
    dsimp only [Option.map_some]
    rw [List.eraseIdx_map, List.map_insertIdx]

/-- A change of places among changed items is one among the items. -/
theorem exists_perm_of_before_eq_map {f : α → β} {shift : Shift β} {items : List α}
    (h : shift.before = items.map f) :
    ∃ moved : List α, moved.Perm items ∧ shift.after = moved.map f := by
  have hsource : shift.source < items.length := by
    have hcount := congrArg List.length h
    rw [List.length_map, Shift.before, List.length_append, List.length_cons] at hcount
    rw [← hcount, Shift.source]
    omega
  have htarget : shift.target ≤ shift.source := by
    rw [Shift.source, Shift.target, List.length_append]
    omega
  obtain ⟨inner, rfl, _, hsame, hsame'⟩ := exists_shift hsource htarget
  refine ⟨inner.after, inner.after_perm, ?_⟩
  rw [← moveItem_shift, ← moveItem_shift, h, hsame, hsame', map_moveItem]

end TemplateLint.Source
