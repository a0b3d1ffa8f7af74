import TemplateLint.Proofs.Source.Patch
import TemplateLint.Proofs.Source.Reordered

/-!
# What mending leaves alone

An argument stands behind the parenthesis of its call, so no edit touches the first code point
of a source. A mended source therefore starts as the source did and holds the same code
points, and it is the source itself if no call was changed.
-/

namespace TemplateLint.Source

/-- Edits that permute their ranges keep the lengths of them. -/
theorem keepLength_of_perm {t : Text} {edits : List Edit}
    (hin : ∀ edit ∈ edits, edit.IsIn t.length)
    (hperm : ∀ edit ∈ edits, edit.replacement.Perm (edit.range.of t)) : KeepLength edits := by
  intro edit hedit
  have hlength := (hperm edit hedit).length_eq
  rw [Range.of, Text.length_slice (hin edit hedit).stop_le] at hlength
  have hstart := (hin edit hedit).start_eq
  have hstop := (hin edit hedit).stop_eq
  have horder := (hin edit hedit).start_le_stop
  omega

/-- A moved argument stands behind the start of the source. -/
theorem ArgumentMoved.start_pos {source : Prepared} {range : Range} {content : Text}
    (h : ArgumentMoved source range content) : 0 < range.start := by
  cases h with
  | @intro scanned found d first last shift hscan hfound hd hrule hfix hleft hargs hfirst hlast
      hbefore =>
    have hconsecutive := (isRead_of_mem_scan hscan).consecutive
    obtain ⟨later, hranges⟩ := List.head?_eq_some_iff.mp hfirst
    rw [hranges] at hconsecutive
    cases hconsecutive with
    | cons hstart _ _ => exact Nat.lt_of_lt_of_le (Nat.succ_pos _) hstart

section Mended

variable {text mended : Text} {config : Config} {file : Option Text} {count : Nat}

/-- Mending a source applies edits that keep apart, each of which moves an argument. -/
theorem exists_edits_of_applyFixes
    (h : (applyFixes text config file).result = .ok (mended, count)) :
    ∃ edits : List Edit, edits.foldr Edit.apply text = mended ∧ edits.length = count ∧
      Apart text.length 0 edits ∧ KeepLength edits ∧
      ∀ edit ∈ edits, edit.start = edit.range.start ∧
        ArgumentMoved (prepare text config file) edit.range edit.replacement := by
  obtain ⟨calls, hcalls, hedits⟩ := Outcome.map_eq_ok h
  cases hedits
  have hmoved : ∀ edit ∈ keptEdits (fixEdits text calls), edit.IsIn text.length ∧
      ArgumentMoved (prepare text config file) edit.range edit.replacement :=
    fun edit hedit => argumentMoved_of_mem_fixEdits hcalls (mem_of_mem_keptEdits hedit)
  refine ⟨keptEdits (fixEdits text calls), rfl, rfl, ?_, ?_, ?_⟩
  · exact apart_keptEdits fun edit hedit => (argumentMoved_of_mem_fixEdits hcalls hedit).1
  · exact keepLength_of_perm (fun edit hedit => (hmoved edit hedit).1)
      fun edit hedit => (hmoved edit hedit).2.perm
  · exact fun edit hedit => ⟨(hmoved edit hedit).1.start_eq, (hmoved edit hedit).2⟩

/-- A mended source holds the code points of the source. -/
theorem perm_of_applyFixes (h : (applyFixes text config file).result = .ok (mended, count)) :
    mended.Perm text := by
  obtain ⟨edits, rfl, _, hapart, hkeep, hmoved⟩ := exists_edits_of_applyFixes h
  exact hapart.perm_foldr hkeep fun edit hedit => (hmoved edit hedit).2.perm

/-- A mended source starts as the source does. -/
theorem head?_of_applyFixes (h : (applyFixes text config file).result = .ok (mended, count)) :
    mended.head? = text.head? := by
  obtain ⟨edits, rfl, _, hapart, hkeep, hmoved⟩ := exists_edits_of_applyFixes h
  rw [List.head?_eq_getElem?, List.head?_eq_getElem?]
  refine hapart.getElem?_foldr_of_outside hkeep fun edit hedit => .inl ?_
  obtain ⟨hstart, hcontent⟩ := hmoved edit hedit
  have hpos := hcontent.start_pos
  omega

/-- A source in which no call is changed stays as it is. -/
theorem eq_of_applyFixes_zero (h : (applyFixes text config file).result = .ok (mended, 0)) :
    mended = text := by
  obtain ⟨edits, rfl, hnone, _⟩ := exists_edits_of_applyFixes h
  rw [List.length_eq_zero_iff.mp hnone, List.foldr_nil]

end Mended

end TemplateLint.Source
