import TemplateLint.Literal.Basic

/-!
# The walk over a literal stays inside it

The walk takes widths of escapes on trust, so it may aim past the end of the content and
past the end of the source. It is set beside a walk by offsets that fails at every read
outside the source. Main statement: on every text, malformed or empty, the two walks agree,
so no read fails; offsets go to the content in order, each unit moves on, and at the end of
the content they stay.
-/

namespace TemplateLint.Literal

/-- Number of hexadecimal digits from an offset on, at most `limit`. A code point is read
only in front of the end. -/
def hexDigitsChecked (source : Text) : (limit i : Nat) → Option Nat
  | 0, _ => some 0
  | limit + 1, i =>
    if i < source.length then do
      let c ← source[i]?
      if c.isHexDigit then (hexDigitsChecked source limit (i + 1)).map (· + 1) else some 0
    else some 0

/-- Width of the escape whose backslash is at an offset. -/
def escapeWidthChecked (source : Text) (i : Nat) : Option Nat :=
  if source.length ≤ i + 1 then some 1
  else do
    let kind ← source[i + 1]?
    if kind = 'x' then (hexDigitsChecked source 4 (i + 2)).map (2 + ·)
    else if kind = 'u' then some 6
    else if kind = 'U' then some 10
    else some 2

/-- Width of the unit at an offset, whose first code point has to be there. -/
def unitWidthChecked (lit : Literal) (i : Nat) : Option Nat := do
  let c ← lit.source[i]?
  if lit.isVerbatim then
    some (if c = '"' ∧ lit.source[i + 1]? = some (CodePoint.ofChar '"') then 2 else 1)
  else if c = '\\' then escapeWidthChecked lit.source i
  else some 1

/-- Where the walk from an offset is after `count` units, or at the end of the content. It
fails when a unit is read outside the source. -/
def walkChecked (lit : Literal) : (count i : Nat) → Option Nat
  | 0, i => some (min i lit.contentEnd)
  | count + 1, i =>
    if i < lit.contentEnd then do
      let width ← lit.unitWidthChecked i
      walkChecked lit count (i + width)
    else some (min i lit.contentEnd)

/-- Offset in the source of an offset in the value, with a failure at every read outside the
source. -/
def mapOffsetChecked (lit : Literal) (offset : Int) : Option Nat :=
  lit.walkChecked offset.toNat lit.contentStart

/-- The digits are read up to the first other code point, or up to the end. -/
theorem hexDigitsChecked_eq (source : Text) (limit i : Nat) :
    hexDigitsChecked source limit i =
      some (((source.drop i).take limit).takeWhile CodePoint.isHexDigit).length := by
  induction limit generalizing i with
  | zero => rfl
  | succ limit ih =>
    rw [hexDigitsChecked]
    split
    · next hi =>
      rw [List.getElem?_eq_getElem hi, List.drop_eq_getElem_cons hi, List.take_succ_cons,
        List.takeWhile_cons, ih (i + 1)]
      cases hhex : source[i].isHexDigit with
      | true => simp [hhex]
      | false => simp [hhex]
    · next hi =>
      rw [List.drop_of_length_le (Nat.le_of_not_lt hi), List.take_nil]
      rfl

/-- The width of an escape is read off the source without a failure. -/
theorem escapeWidthChecked_eq (source : Text) (i : Nat) :
    escapeWidthChecked source i = some (escapeWidth (source.drop (i + 1))) := by
  unfold escapeWidthChecked
  split
  · next hend =>
    rw [List.drop_of_length_le hend]
    rfl
  · next hend =>
    have hi := Nat.lt_of_not_le hend
    rw [List.getElem?_eq_getElem hi, List.drop_eq_getElem_cons hi, hexDigitsChecked_eq, escapeWidth]
    simp only [Option.bind_eq_bind, Option.bind_some, Option.map_some]
    split
    · rfl
    · split
      · rfl
      · split <;> rfl

/-- The width of a unit inside the source is read without a failure. -/
theorem unitWidthChecked_eq {lit : Literal} {i : Nat} (hi : i < lit.source.length) :
    lit.unitWidthChecked i = some (unitWidth lit.isVerbatim (lit.source.drop i)) := by
  rw [unitWidthChecked, List.getElem?_eq_getElem hi, List.drop_eq_getElem_cons hi, unitWidth,
    List.head?_drop, escapeWidthChecked_eq]
  simp only [Option.bind_eq_bind, Option.bind_some]
  split
  · rfl
  · split <;> rfl

/-- A unit has a width. -/
theorem unitWidth_pos (isVerbatim : Bool) (content : Text) : 0 < unitWidth isVerbatim content := by
  have hescape : ∀ rest, 0 < escapeWidth rest := by
    intro rest
    fun_cases escapeWidth rest <;> omega
  fun_cases unitWidth isVerbatim content
  case case4 rest _ => exact hescape rest
  all_goals omega

/-- The content does not end before it starts. -/
theorem contentStart_le_contentEnd (lit : Literal) : lit.contentStart ≤ lit.contentEnd := by
  unfold contentEnd
  split <;> omega

/-- An offset inside the content is inside the source. -/
theorem lt_length_of_lt_contentEnd {lit : Literal} {i : Nat} (hstart : lit.contentStart ≤ i)
    (hend : i < lit.contentEnd) : i < lit.source.length := by
  unfold contentEnd at hend
  split at hend <;> omega

/-- Past the content the walk has ended. -/
theorem walkChecked_of_le {lit : Literal} {i : Nat} (h : lit.contentEnd ≤ i) (count : Nat) :
    lit.walkChecked count i = some lit.contentEnd := by
  cases count with
  | zero => rw [walkChecked, Nat.min_eq_right h]
  | succ count => rw [walkChecked, if_neg (Nat.not_lt.mpr h), Nat.min_eq_right h]

/-- Inside the content the walk by offsets takes the units that the walk over the text takes,
and it reads nothing outside the source. -/
theorem walkChecked_eq {lit : Literal} (count : Nat) {i : Nat} (hstart : lit.contentStart ≤ i)
    (hend : i ≤ lit.contentEnd) :
    lit.walkChecked count i =
      some (i + walk lit.isVerbatim count (lit.contentEnd - i) (lit.source.drop i)) := by
  induction count generalizing i with
  | zero => rw [walkChecked, walk, Nat.min_eq_left hend, Nat.add_zero]
  | succ count ih =>
    rcases Nat.eq_or_lt_of_le hend with rfl | hlt
    · rw [walkChecked_of_le (Nat.le_refl _), Nat.sub_self, walk, Nat.add_zero]
    · have hwidth := unitWidthChecked_eq (lt_length_of_lt_contentEnd hstart hlt)
      obtain ⟨room, hroom⟩ : ∃ room, lit.contentEnd - i = room + 1 :=
        Nat.exists_eq_succ_of_ne_zero (Nat.sub_ne_zero_of_lt hlt)
      rw [walkChecked, if_pos hlt, hwidth, hroom, walk, Option.bind_eq_bind, Option.bind_some]
      split
      · next hover =>
        -- the unit reaches to the end of the content or past it
        rw [walkChecked_of_le (by omega)]
        congr 1
        omega
      · next hinside =>
        rw [ih (by omega) (by omega), List.drop_drop, ← hroom, Nat.sub_add_eq, Nat.add_assoc]

/-- The walk never takes more than there is room for. -/
theorem walk_le_room (isVerbatim : Bool) (count room : Nat) (content : Text) :
    walk isVerbatim count room content ≤ room := by
  fun_induction walk isVerbatim count room content with
  | case1 => exact Nat.zero_le _
  | case2 => exact Nat.le_refl _
  | case3 => exact Nat.le_refl _
  | case4 count room content width hwidth ih => omega

/-- One more unit moves the walk on, or the room is used up and stays so. -/
theorem walk_succ (isVerbatim : Bool) (count room : Nat) (content : Text) :
    walk isVerbatim count room content < walk isVerbatim (count + 1) room content ∨
      walk isVerbatim count room content = room ∧
        walk isVerbatim (count + 1) room content = room := by
  fun_induction walk isVerbatim count room content with
  | case1 room content =>
    have hpos := unitWidth_pos isVerbatim content
    cases room with
    | zero => exact .inr ⟨rfl, rfl⟩
    | succ room =>
      rw [walk]
      split <;> omega
  | case2 => exact .inr ⟨rfl, rfl⟩
  | case3 count room content width hwidth =>
    rw [walk, if_pos hwidth]
    exact .inr ⟨rfl, rfl⟩
  | case4 count room content width hwidth ih =>
    rw [walk, if_neg hwidth]
    rcases ih with hmore | ⟨hfull, hlast⟩
    · exact .inl (Nat.add_lt_add_left hmore width)
    · have hroom : width + (room + 1 - width) = room + 1 := by omega
      exact .inr ⟨(congrArg (width + ·) hfull).trans hroom,
        (congrArg (width + ·) hlast).trans hroom⟩

/-- More units do not move the walk back. -/
theorem walk_mono {isVerbatim : Bool} {count more room : Nat} {content : Text}
    (h : count ≤ more) :
    walk isVerbatim count room content ≤ walk isVerbatim more room content := by
  induction h with
  | refl => exact Nat.le_refl _
  | @step more _ ih =>
    rcases walk_succ isVerbatim more room content with hmore | ⟨hfull, hlast⟩
    · exact Nat.le_trans ih (Nat.le_of_lt hmore)
    · exact Nat.le_trans ih (Nat.le_of_eq (hfull.trans hlast.symm))

/-- An offset of the value goes into the content. -/
theorem mapOffset_mem_content (lit : Literal) (offset : Int) :
    lit.contentStart ≤ lit.mapOffset offset ∧ lit.mapOffset offset ≤ lit.contentEnd := by
  have hroom := walk_le_room lit.isVerbatim offset.toNat (lit.contentEnd - lit.contentStart)
    (lit.source.drop lit.contentStart)
  have horder := lit.contentStart_le_contentEnd
  rw [mapOffset]
  omega

/-- A later offset of the value does not go to an earlier place of any source. -/
theorem mapOffset_mono (lit : Literal) {i j : Int} (h : i ≤ j) :
    lit.mapOffset i ≤ lit.mapOffset j :=
  Nat.add_le_add_left (walk_mono (Int.toNat_le_toNat h)) _

/-- In front of the end of the content the next offset goes to a later place. -/
theorem mapOffset_lt_succ (lit : Literal) {offset : Int} (hoffset : 0 ≤ offset)
    (h : lit.mapOffset offset < lit.contentEnd) :
    lit.mapOffset offset < lit.mapOffset (offset + 1) := by
  have hstep := walk_succ lit.isVerbatim offset.toNat (lit.contentEnd - lit.contentStart)
    (lit.source.drop lit.contentStart)
  have hcount : (offset + 1).toNat = offset.toNat + 1 := Int.toNat_add hoffset (by decide)
  rw [mapOffset] at h ⊢
  rw [mapOffset, hcount]
  omega

/-- The mapping of offsets is total and stays inside the content, whatever the source is. No
read is outside the source; offsets go to places between the start and the end of the content,
in order; each one moves on until the end of the content, where all later ones stay. So a range
of the value goes to a range of the content, and its length, as a difference, is not negative. -/
theorem mapOffset_stays_in_content (lit : Literal) :
    (∀ offset, lit.mapOffsetChecked offset = some (lit.mapOffset offset)) ∧
      (∀ offset, lit.contentStart ≤ lit.mapOffset offset ∧
        lit.mapOffset offset ≤ lit.contentEnd) ∧
      (∀ i j, i ≤ j → lit.mapOffset i ≤ lit.mapOffset j) ∧
      (∀ offset, 0 ≤ offset → lit.mapOffset offset < lit.contentEnd →
        lit.mapOffset offset < lit.mapOffset (offset + 1)) ∧
      (∀ offset later, lit.mapOffset offset = lit.contentEnd → offset ≤ later →
        lit.mapOffset later = lit.contentEnd) ∧
      ∀ start length, lit.contentStart ≤ (lit.mapRange start length).1 ∧
        (lit.mapRange start length).1 + (lit.mapRange start length).2 ≤ lit.contentEnd ∧
        ((lit.mapRange start length).2 : Int) =
          (lit.mapOffset (start + max length 0) : Int) - lit.mapOffset start := by
  refine ⟨fun offset => ?_, lit.mapOffset_mem_content, fun _ _ => lit.mapOffset_mono,
    fun _ => lit.mapOffset_lt_succ, fun offset later hend hlater => ?_, fun start length => ?_⟩
  · exact walkChecked_eq _ (Nat.le_refl _) lit.contentStart_le_contentEnd
  · have horder := lit.mapOffset_mono hlater
    have hbound := (lit.mapOffset_mem_content later).2
    omega
  · have horder := lit.mapOffset_mono (show start ≤ start + max length 0 by omega)
    have hfirst := lit.mapOffset_mem_content start
    have hlast := lit.mapOffset_mem_content (start + max length 0)
    dsimp only [mapRange]
    omega

/-- A numeric escape that is cut off after one digit, without a closing quote: its width is ten,
but the first offset behind it goes to the end of the source, and so do all later ones. -/
theorem mapOffset_stays_in_content_truncated :
    let lit : Literal := ⟨"\"a\\U0", false⟩
    lit.mapOffset 2 = lit.contentEnd ∧ lit.contentEnd = 5 ∧
      lit.mapOffsetChecked 2 = some 5 ∧ ∀ later, 2 ≤ later → lit.mapOffset later = 5 := by
  intro lit
  have hend : lit.mapOffset 2 = lit.contentEnd := by decide
  obtain ⟨hchecked, _, _, _, hstays, _⟩ := mapOffset_stays_in_content lit
  exact ⟨hend, by decide, hchecked 2, fun later hlater => hstays 2 later hend hlater⟩

end TemplateLint.Literal
