import TemplateLint.Declare.Pattern

/-!
# Where occurrences end

A reader only moves its cursor forward, so a pattern that steps over a code point at its end finds
this code point in the text. Main statement: the occurrences of such a pattern end behind the code
point, one behind the other.
-/

namespace TemplateLint

namespace Cursor

/-- A cursor is followed by another one in the same text. -/
def Leads (cursor next : Cursor) : Prop :=
  ∃ count, next = cursor.advance count

/-- The next cursor stands right behind a code point that follows this one. -/
def Passes (cursor : Cursor) (c : CodePoint) (next : Cursor) : Prop :=
  ∃ count, cursor.rest[count]? = some c ∧ next = cursor.advance (count + 1)

variable {cursor middle next : Cursor} {c : CodePoint}

/-- Two steps are one. -/
theorem advance_advance (cursor : Cursor) (first second : Nat) :
    (cursor.advance first).advance second = cursor.advance (first + second) := by
  simp only [advance, List.drop_drop, Nat.add_assoc]

/-- A cursor leads to itself. -/
theorem Leads.refl (cursor : Cursor) : cursor.Leads cursor :=
  ⟨0, rfl⟩

/-- A cursor leads where a later one leads. -/
theorem Leads.trans (h : cursor.Leads middle) (hnext : middle.Leads next) : cursor.Leads next := by
  obtain ⟨first, rfl⟩ := h
  obtain ⟨second, rfl⟩ := hnext
  exact ⟨first + second, advance_advance cursor first second⟩

/-- A step leads on. -/
theorem leads_advance (cursor : Cursor) (count : Nat) : cursor.Leads (cursor.advance count) :=
  ⟨count, rfl⟩

/-- A run of code points leads on. -/
theorem leads_skip (cursor : Cursor) (p : CodePoint → Bool) : cursor.Leads (cursor.skip p) :=
  cursor.leads_advance _

/-- A cursor passes what a later one passes. -/
theorem Leads.passes (h : cursor.Leads middle) (hnext : middle.Passes c next) :
    cursor.Passes c next := by
  obtain ⟨first, rfl⟩ := h
  obtain ⟨count, hget, rfl⟩ := hnext
  refine ⟨first + count, ?_, by rw [advance_advance, Nat.add_assoc]⟩
  rw [← List.getElem?_drop]
  exact hget

/-- Passing a code point leads on. -/
theorem Passes.leads (h : cursor.Passes c next) : cursor.Leads next := by
  obtain ⟨count, _, rfl⟩ := h
  exact cursor.leads_advance _

/-- A code point that is passed lies behind the cursor. -/
theorem Passes.offset_lt (h : cursor.Passes c next) : cursor.offset < next.offset := by
  obtain ⟨count, _, rfl⟩ := h
  exact Nat.lt_add_of_pos_right (Nat.succ_pos count)

/-- What has to come next is passed. -/
theorem passes_of_expect? (h : cursor.expect? c = some next) : cursor.Passes c next := by
  unfold expect? at h
  split at h
  · next hat =>
    cases h
    refine ⟨0, ?_, rfl⟩
    rw [← List.head?_eq_getElem?]
    exact of_decide_eq_true hat
  · cases h

/-- A word leads on. -/
theorem leads_of_expectWord? {word : Text} (h : cursor.expectWord? word = some next) :
    cursor.Leads next := by
  unfold expectWord? at h
  split at h
  · cases h
    exact cursor.leads_advance _
  · cases h

/-- Blanks lead on. -/
theorem leads_of_expectBlanks? (h : cursor.expectBlanks? = some next) : cursor.Leads next := by
  unfold expectBlanks? at h
  split at h
  · cases h
    exact cursor.leads_skip _
  · cases h

end Cursor

namespace Declare

variable {cursor next : Cursor} {name : Text}

/-- An identifier leads on. -/
theorem leads_of_identifier? (h : identifier? cursor = some (name, next)) :
    cursor.Leads next := by
  unfold identifier? at h
  split at h
  · cases h
    exact cursor.leads_skip _
  · cases h

/-- An identifier with an `@` in front of it leads on. -/
theorem leads_of_escapedIdentifier? (h : escapedIdentifier? cursor = some (name, next)) :
    cursor.Leads next := by
  have hescape : cursor.Leads (skipEscape cursor) := by
    unfold skipEscape
    split
    · exact cursor.leads_advance 1
    · exact .refl cursor
  exact hescape.trans (leads_of_identifier? h)

/-- Angle brackets lead on. -/
theorem leads_skipAngles (stops : List CodePoint) (cursor : Cursor) :
    cursor.Leads (skipAngles stops cursor) := by
  unfold skipAngles
  cases hangles : angles? stops cursor with
  | none => exact .refl cursor
  | some next =>
    obtain ⟨inner, hinner, hnext⟩ := Option.bind_eq_some_iff.mp hangles
    exact ((Cursor.passes_of_expect? hinner).leads.trans (inner.leads_skip _)).passes
      (Cursor.passes_of_expect? hnext) |>.leads

end Declare

namespace Source

variable {α : Type} {pattern : Pattern α} {found : Occurrence α} {t : Text} {c : CodePoint}

/-- Every occurrence of a pattern in the rest of a text is a match at a place of the text. -/
theorem exists_of_mem_occurrencesFrom {before : Option CodePoint} {offset skip : Nat}
    {rest : Text} (hrest : rest = t.drop offset)
    (h : found ∈ occurrencesFrom pattern before offset skip rest) :
    ∃ before start next, pattern before ⟨start, t.drop start⟩ = some (found.value, next) ∧
      next.offset = found.stop := by
  induction rest generalizing before offset skip with
  | nil => cases h
  | cons c rest ih =>
    have hlater : rest = t.drop (offset + 1) := by
      rw [← List.drop_drop, ← hrest]
      rfl
    cases skip with
    | succ skip => exact ih hlater h
    | zero =>
      rw [occurrencesFrom] at h
      split at h
      · next value behind hmatch =>
        rcases List.mem_cons.mp h with rfl | h
        · rw [hrest] at hmatch
          exact ⟨before, offset, behind, hmatch, rfl⟩
        · exact ih hlater h
      · exact ih hlater h

/-- The occurrences of a pattern that steps over something start behind what is skipped, end
behind their starts, and do not overlap. -/
theorem pairwise_occurrencesFrom
    (hstep : ∀ before cursor value next, pattern before cursor = some (value, next) →
      cursor.offset < next.offset) (before : Option CodePoint) (offset skip : Nat) (rest : Text) :
    (∀ found ∈ occurrencesFrom pattern before offset skip rest,
      offset + skip ≤ found.start ∧ found.start < found.stop) ∧
    (occurrencesFrom pattern before offset skip rest).Pairwise fun a b => a.stop ≤ b.start := by
  induction rest generalizing before offset skip with
  | nil => exact ⟨nofun, List.Pairwise.nil⟩
  | cons c rest ih =>
    cases skip with
    | succ skip =>
      obtain ⟨hbounds, hpairwise⟩ := ih (some c) (offset + 1) skip
      refine ⟨fun found hfound => ?_, hpairwise⟩
      have hlater := hbounds found hfound
      omega
    | zero =>
      rw [occurrencesFrom]
      split
      · next value next hmatch =>
        have hnext : offset < next.offset := hstep _ _ _ _ hmatch
        obtain ⟨hbounds, hpairwise⟩ := ih (some c) (offset + 1) (next.offset - offset - 1)
        have hbehind : ∀ found ∈ occurrencesFrom pattern (some c) (offset + 1)
            (next.offset - offset - 1) rest, next.offset ≤ found.start := by
          intro found hfound
          have hlater := hbounds found hfound
          omega
        refine ⟨List.forall_mem_cons.mpr ⟨⟨Nat.le_refl _, hnext⟩, fun found hfound => ?_⟩,
          List.pairwise_cons.mpr ⟨hbehind, hpairwise⟩⟩
        have hlater := hbounds found hfound
        omega
      · obtain ⟨hbounds, hpairwise⟩ := ih (some c) (offset + 1) 0
        refine ⟨fun found hfound => ?_, hpairwise⟩
        have hlater := hbounds found hfound
        omega

section Passing

variable (hpass : ∀ before cursor value next, pattern before cursor = some (value, next) →
  cursor.Passes c next)

include hpass

/-- The occurrences of a pattern that passes a code point at its end have it there. -/
theorem getElem?_of_passes (hfound : found ∈ occurrences pattern t) :
    t[found.stop - 1]? = some c := by
  obtain ⟨before, start, next, hmatch, hstop⟩ := exists_of_mem_occurrencesFrom rfl hfound
  obtain ⟨count, hget, rfl⟩ := hpass _ _ _ _ hmatch
  rw [List.getElem?_drop] at hget
  rw [← hstop]
  exact hget

/-- The occurrences of a pattern that passes a code point end one behind the other. -/
theorem pairwise_of_passes (t : Text) :
    (occurrences pattern t).Pairwise fun a b => 0 < a.stop ∧ a.stop < b.stop := by
  have hstep : ∀ before cursor value next, pattern before cursor = some (value, next) →
      cursor.offset < next.offset :=
    fun _ _ _ _ hmatch => (hpass _ _ _ _ hmatch).offset_lt
  obtain ⟨hbounds, hpairwise⟩ := pairwise_occurrencesFrom hstep none 0 0 t
  refine hpairwise.imp_of_mem fun ha hb hle => ?_
  have hfirst := hbounds _ ha
  have hsecond := hbounds _ hb
  omega

end Passing

end Source

end TemplateLint
