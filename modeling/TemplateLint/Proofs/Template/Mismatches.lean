import Mathlib.Data.List.Sort
import TemplateLint.Proofs.Template.Matching

/-!
# Every mismatch is reported once

Which mismatches the binding of properties reports, and in which order. A report is
described by the numbered items that it is about: properties by their ordinal or their index,
values by their position. Main statement: properties of each kind are reported by the numbers
of this kind, those without a value before the values without a property, each of them once
and in increasing order; a template that mixes the kinds has one report more. For positional
properties the messages do not depend on the order of the properties.
-/

namespace TemplateLint

/-- Numbered items in the order of their numbers, each number once, and exactly those items
that a condition picks. -/
structure Enumerates {α : Type} (p : α → Nat → Prop) (items : List (α × Nat)) : Prop where
  /-- The numbers increase. -/
  increasing : items.Pairwise fun a b => a.2 < b.2
  /-- The items are those with the condition. -/
  mem_iff : ∀ item number, (item, number) ∈ items ↔ p item number

namespace Enumerates

variable {α β : Type} {p : α → Nat → Prop} {items : List (α × Nat)}

/-- The items of a list from one position on, with their positions. -/
theorem zipIdx_drop (list : List α) (start : Nat) :
    Enumerates (fun item position => list[position]? = some item ∧ start ≤ position)
      ((list.drop start).zipIdx start) where
  increasing := by
    have hpositions : (((list.drop start).zipIdx start).map Prod.snd).Pairwise (· < ·) := by
      rw [List.zipIdx_map_snd]
      exact List.pairwise_lt_range'
    exact List.pairwise_map.mp hpositions
  mem_iff item position := by
    rw [List.mem_zipIdx_iff_le_and_getElem?_sub, List.getElem?_drop, and_comm]
    refine and_congr_left fun hle => ?_
    rw [Nat.add_sub_cancel' hle]

/-- The items that pass a further test. -/
theorem filter (h : Enumerates p items) (q : α × Nat → Bool) :
    Enumerates (fun item number => p item number ∧ q (item, number) = true)
      (items.filter q) where
  increasing := h.increasing.filter q
  mem_iff item number := by rw [List.mem_filter, h.mem_iff]

/-- The numbers that occur determine a map that looks at the numbers only. -/
theorem map_eq {γ : Type} {q : β → Nat → Prop} {others : List (β × Nat)} (h : Enumerates p items)
    (hother : Enumerates q others)
    (hnumbers : ∀ number, (∃ item, p item number) ↔ ∃ item, q item number) (f : Nat → γ) :
    items.map (fun item => f item.2) = others.map fun item => f item.2 := by
  have hleft : (items.map Prod.snd).Pairwise (· < ·) := List.pairwise_map.mpr h.increasing
  have hright : (others.map Prod.snd).Pairwise (· < ·) := List.pairwise_map.mpr hother.increasing
  have hsame : items.map Prod.snd = others.map Prod.snd := by
    refine hleft.eq_of_mem_iff hright fun number => ?_
    simpa [h.mem_iff, hother.mem_iff] using hnumbers number
  have hmap := congrArg (List.map f) hsame
  rw [List.map_map, List.map_map] at hmap
  exact hmap

end Enumerates

namespace Template

/-- A property is the first one with an index. -/
def IsFirstAt (holes : List Property) (hole : Property) (index : Nat) : Prop :=
  hole.index = some index ∧ ∃ before after, holes = before ++ hole :: after ∧
    ∀ other ∈ before, other.index ≠ some index

/-- A property is the first positional one. -/
def IsFirstPositional (holes : List Property) (hole : Property) : Prop :=
  hole.isPositional = true ∧ ∃ before after, holes = before ++ hole :: after ∧
    ∀ other ∈ before, other.isPositional = false

/-- A report of properties that take the values by order: the properties whose ordinal is no
position of a value, then the values whose position is no ordinal. -/
def ReportsByOrder (holes : List Property) (values : List Span) (locate : Span → Span)
    (found : List Diagnostic) : Prop :=
  ∃ unbound surplus,
    Enumerates (fun hole ordinal => holes[ordinal]? = some hole ∧ values.length ≤ ordinal)
      unbound ∧
    Enumerates (fun value position => values[position]? = some value ∧ holes.length ≤ position)
      surplus ∧
    found = unbound.map (fun item => (Mismatch.unboundName item.1.name).at (locate item.1.span)) ++
      surplus.map fun item => (if holes = [] then Mismatch.noProperties else .surplus).at item.1

/-- A report of properties that take the values by index: every index that is no position of a
value, at the first property that has it, then the values whose position is no index. -/
def ReportsByIndex (holes : List Property) (values : List Span) (locate : Span → Span)
    (found : List Diagnostic) : Prop :=
  ∃ unbound unused,
    Enumerates (fun hole index => IsFirstAt holes hole index ∧ values.length ≤ index) unbound ∧
    Enumerates (fun value position => values[position]? = some value ∧
      ∀ hole ∈ holes, hole.index ≠ some position) unused ∧
    found = unbound.map (fun item => (Mismatch.unboundIndex item.2).at (locate item.1.span)) ++
      unused.map fun item =>
        (if holes = [] then Mismatch.noProperties else .unusedPosition).at item.1

variable {holes : List Property} {values : List Span} {locate : Span → Span}

/-- A map of numbered items that does not look at their numbers. -/
theorem map_zipIdx_fst {α β : Type} (f : α → β) (list : List α) (start : Nat) :
    (list.zipIdx start).map (fun item => f item.1) = list.map f := by
  have hmap := congrArg (List.map f) (List.zipIdx_map_fst start list)
  rw [List.map_map] at hmap
  exact hmap

/-- Binding by order reports by order. -/
theorem reportsByOrder_bindNamed :
    ReportsByOrder holes values locate (bindNamed holes values locate) := by
  refine ⟨_, _, Enumerates.zipIdx_drop holes values.length,
    Enumerates.zipIdx_drop values holes.length, ?_⟩
  rw [map_zipIdx_fst fun hole : Property => (Mismatch.unboundName hole.name).at (locate hole.span),
    map_zipIdx_fst]
  rfl

/-- By order there are as many reports as the numbers of properties and values differ by. -/
theorem length_bindNamed : (bindNamed holes values locate).length =
    ((holes.length : Int) - values.length).natAbs := by
  simp only [bindNamed, List.length_append, List.length_map, List.length_drop]
  omega

/-- No report by order says that the kinds are mixed. -/
theorem message_ne_mixed_of_mem_bindNamed {d : Diagnostic}
    (h : d ∈ bindNamed holes values locate) : d.message ≠ Mismatch.mixed.message := by
  have hfirst : d.message.head? = some (CodePoint.ofChar 'T') := by
    rcases List.mem_append.mp h with hhole | hvalue
    · obtain ⟨hole, _, rfl⟩ := List.mem_map.mp hhole
      rfl
    · obtain ⟨value, _, rfl⟩ := List.mem_map.mp hvalue
      split <;> rfl
  intro hmixed
  rw [hmixed] at hfirst
  exact absurd hfirst (by decide)

/-- No item stays twice when repetitions are left out. -/
theorem nodup_eraseDups {α : Type} [DecidableEq α] (list : List α) : list.eraseDups.Nodup := by
  induction hlength : list.length using Nat.strongRecOn generalizing list with
  | _ length ih =>
    cases list with
    | nil => simp
    | cons first rest =>
      have hshort := List.length_filter_le (fun item => !item == first) rest
      rw [List.length_cons] at hlength
      rw [List.eraseDups_cons, List.nodup_cons]
      exact ⟨by simp, ih _ (by omega) _ rfl⟩

/-- The indices increase. -/
theorem pairwise_indices (holes : List Property) : (indices holes).Pairwise (· < ·) := by
  have hsorted : (indices holes).Pairwise (· ≤ ·) :=
    List.pairwise_mergeSort' (· ≤ ·) (holes.filterMap Property.index).eraseDups
  have hnodup : (indices holes).Nodup :=
    (List.mergeSort_perm _ _).nodup_iff.mpr (nodup_eraseDups _)
  exact hsorted.and hnodup |>.imp fun h => Nat.lt_of_le_of_ne h.1 h.2

/-- What is found for an index is the first property that has it. -/
theorem find?_index_eq_some_iff {hole : Property} {index : Nat} :
    (holes.find? fun other => decide (other.index = some index)) = some hole ↔
      IsFirstAt holes hole index := by
  simp [List.find?_eq_some_iff_append, IsFirstAt]

/-- Some property has an index exactly when one is the first to have it. -/
theorem exists_isFirstAt_iff {index : Nat} :
    (∃ hole, IsFirstAt holes hole index) ↔ some index ∈ holes.map Property.index := by
  simp only [← find?_index_eq_some_iff, ← Option.isSome_iff_exists, List.find?_isSome,
    decide_eq_true_eq, List.mem_map]

/-- The indices from a number on, each with the first property that has it. -/
def holesFrom (holes : List Property) (count : Nat) : List (Property × Nat) :=
  ((indices holes).filter fun index => decide (count ≤ index)).filterMap fun index =>
    (holes.find? fun hole => decide (hole.index = some index)).map (·, index)

/-- Every index from a number on is met once, at the first property that has it. -/
theorem enumerates_holesFrom (count : Nat) :
    Enumerates (fun hole index => IsFirstAt holes hole index ∧ count ≤ index)
      (holesFrom holes count) where
  increasing := by
    have hincreasing := (pairwise_indices holes).filter fun index => decide (count ≤ index)
    refine hincreasing.filterMap _ fun i j hlt a ha b hb => ?_
    obtain ⟨_, _, rfl⟩ := Option.map_eq_some_iff.mp ha
    obtain ⟨_, _, rfl⟩ := Option.map_eq_some_iff.mp hb
    exact hlt
  mem_iff hole index := by
    simp only [holesFrom, List.mem_filterMap, List.mem_filter, decide_eq_true_eq,
      Option.map_eq_some_iff, find?_index_eq_some_iff, Prod.mk.injEq]
    constructor
    · rintro ⟨_, ⟨_, hle⟩, _, hfirst, rfl, rfl⟩
      exact ⟨hfirst, hle⟩
    · rintro ⟨hfirst, hle⟩
      obtain ⟨hindex, before, after, rfl, _⟩ := id hfirst
      have hused : index ∈ indices (before ++ hole :: after) :=
        mem_indices_iff.mpr ⟨hole, by simp, hindex⟩
      exact ⟨index, ⟨hused, hle⟩, hole, hfirst, rfl, rfl⟩

/-- Every value whose position is no index is met once. -/
theorem enumerates_unused : Enumerates (fun value position => values[position]? = some value ∧
      ∀ hole ∈ holes, hole.index ≠ some position)
    (values.zipIdx.filter fun value => !(indices holes).contains value.2) := by
  have hall := (Enumerates.zipIdx_drop values 0).filter fun value =>
    !(indices holes).contains value.2
  refine ⟨hall.increasing, fun value position => (hall.mem_iff value position).trans ?_⟩
  simp [mem_indices_iff]

/-- Binding by index reports by index. -/
theorem reportsByIndex_bindPositional (hne : holes ≠ []) :
    ReportsByIndex holes values locate (bindPositional holes values locate) := by
  refine ⟨_, _, enumerates_holesFrom values.length, enumerates_unused, ?_⟩
  rw [bindPositional, holesFrom, List.map_filterMap, if_neg hne]
  simp only [Option.map_map, Function.comp_def]

/-- Without properties every value is reported, by order as by index. -/
theorem reportsByIndex_nil : ReportsByIndex [] values locate (bindNamed [] values locate) := by
  have hindices : indices [] = [] := by simp [indices]
  have hunused := @enumerates_unused [] values
  simp only [hindices, List.contains_nil, Bool.not_false, List.filter_true] at hunused
  refine ⟨[], values.zipIdx, ⟨.nil, by simp [IsFirstAt]⟩, hunused, ?_⟩
  rw [map_zipIdx_fst]
  simp [bindNamed]

/-- The messages of a report by index are determined by the indices of the properties, in any
order. -/
theorem ReportsByIndex.messages_eq {others : List Property} {place : Span → Span}
    {found more : List Diagnostic} (h : ReportsByIndex holes values locate found)
    (hother : ReportsByIndex others values place more)
    (hperm : (others.map Property.index).Perm (holes.map Property.index)) :
    more.map Diagnostic.message = found.map Diagnostic.message := by
  obtain ⟨unbound, unused, hunbound, hunused, rfl⟩ := h
  obtain ⟨unboundMore, unusedMore, hunboundMore, hunusedMore, rfl⟩ := hother
  have hindices : ∀ index, some index ∈ others.map Property.index ↔
      some index ∈ holes.map Property.index := fun index => hperm.mem_iff
  have hnone : others = [] ↔ holes = [] := by
    have hlength := hperm.length_eq
    rw [List.length_map, List.length_map] at hlength
    rw [← List.length_eq_zero_iff, hlength, List.length_eq_zero_iff]
  simp only [List.map_append, List.map_map, Function.comp_def, Mismatch.at, hnone]
  refine congrArg₂ _ (hunboundMore.map_eq hunbound (fun index => ?_) fun index =>
    (Mismatch.unboundIndex index).message) (hunusedMore.map_eq hunused (fun position => ?_)
    fun _ => _)
  · rw [exists_and_right, exists_and_right, exists_isFirstAt_iff, exists_isFirstAt_iff, hindices]
  · have hposition := hindices position
    simp only [List.mem_map] at hposition
    grind

/-- Without positional properties the properties are bound by order. -/
theorem bind_of_named {segments : List Segment}
    (hkind : ∀ hole ∈ properties segments, hole.isPositional = false) :
    bind segments values locate = bindNamed (properties segments) values locate := by
  have hfilter : (properties segments).filter Property.isPositional = [] := by
    simpa using hkind
  simp only [bind, hfilter]

/-- Properties that are all positional are bound by index. -/
theorem bind_of_positional {segments : List Segment}
    (hkind : ∀ hole ∈ properties segments, hole.isPositional = true)
    (hne : properties segments ≠ []) :
    bind segments values locate = bindPositional (properties segments) values locate := by
  obtain ⟨first, rest, hholes⟩ := List.exists_cons_of_ne_nil hne
  have hfilter : (properties segments).filter Property.isPositional = first :: rest :=
    (List.filter_eq_self.mpr hkind).trans hholes
  simp only [bind, hfilter, if_pos (congrArg List.length hholes).symm]

/-- Properties that are all positional are reported by index. -/
theorem reportsByIndex_bind {segments : List Segment}
    (hkind : ∀ hole ∈ properties segments, hole.isPositional = true) :
    ReportsByIndex (properties segments) values locate (bind segments values locate) := by
  by_cases hne : properties segments = []
  · rw [bind_of_named (by simp [hne]), hne]
    exact reportsByIndex_nil
  · rw [bind_of_positional hkind hne]
    exact reportsByIndex_bindPositional hne

/-- Properties with the same indices in another order are of the same kind. -/
theorem isPositional_of_perm {others : List Property}
    (hperm : (others.map Property.index).Perm (holes.map Property.index))
    (hkind : ∀ hole ∈ holes, hole.isPositional = true) :
    ∀ hole ∈ others, hole.isPositional = true := by
  intro hole hmem
  have hindex := hperm.mem_iff.mp (List.mem_map_of_mem hmem)
  obtain ⟨other, hother, hsame⟩ := List.mem_map.mp hindex
  rw [Property.isPositional, ← hsame]
  exact hkind other hother

/-- Properties of both kinds are reported once, at the first positional one, and then bound by
order. -/
theorem exists_bind_of_mixed {segments : List Segment} {hole other : Property}
    (hhole : hole ∈ properties segments) (hpositional : hole.isPositional = true)
    (hother : other ∈ properties segments) (hnamed : other.isPositional = false) :
    ∃ first, IsFirstPositional (properties segments) first ∧
      bind segments values locate =
        Mismatch.mixed.at (locate first.span) :: bindNamed (properties segments) values locate := by
  cases hfilter : (properties segments).filter Property.isPositional with
  | nil => simp [List.filter_eq_nil_iff.mp hfilter hole hhole] at hpositional
  | cons first rest =>
    obtain ⟨before, after, hholes, hbefore, hfirst, _⟩ := List.filter_eq_cons_iff.mp hfilter
    refine ⟨first, ⟨hfirst, before, after, hholes, by simpa using hbefore⟩, ?_⟩
    have hless : (first :: rest).length ≠ (properties segments).length := by
      intro hlength
      rw [← hfilter] at hlength
      have hall := List.filter_eq_self.mp (List.filter_sublist.eq_of_length hlength)
      simp [hall other hother] at hnamed
    simp only [bind, hfilter, if_neg hless]

/-- Every mismatch is reported once and in order. If all properties are positional, the indices
that are no positions are reported in increasing order, each at its first property, and then the
values whose positions are no indices; the messages stay the same when the properties are put
in another order. If no property is positional, the properties past the last value are reported
and then the values past the last property. If both kinds occur, one report at the first
positional property comes before those of the properties by order. -/
theorem bind_reports_mismatches (segments : List Segment) (values : List Span)
    (locate : Span → Span) :
    ((∀ hole ∈ properties segments, hole.isPositional = true) →
      ReportsByIndex (properties segments) values locate (bind segments values locate) ∧
        ∀ (others : List Segment) (place : Span → Span),
          ((properties others).map Property.index).Perm
              ((properties segments).map Property.index) →
            (bind others values place).map Diagnostic.message =
              (bind segments values locate).map Diagnostic.message) ∧
      ((∀ hole ∈ properties segments, hole.isPositional = false) →
        ReportsByOrder (properties segments) values locate (bind segments values locate) ∧
          (bind segments values locate).length =
            (((properties segments).length : Int) - values.length).natAbs) ∧
      ((∃ hole ∈ properties segments, hole.isPositional = true) →
        (∃ hole ∈ properties segments, hole.isPositional = false) →
        ∃ first rest, IsFirstPositional (properties segments) first ∧
          bind segments values locate = Mismatch.mixed.at (locate first.span) :: rest ∧
          (∀ d ∈ rest, d.message ≠ Mismatch.mixed.message) ∧
          ReportsByOrder (properties segments) values locate rest) := by
  refine ⟨fun hkind => ?_, fun hkind => ?_, ?_⟩
  · have hreport : ReportsByIndex (properties segments) values locate _ := reportsByIndex_bind hkind
    refine ⟨hreport, fun others place hperm => hreport.messages_eq (reportsByIndex_bind ?_) hperm⟩
    exact isPositional_of_perm hperm hkind
  · rw [bind_of_named hkind]
    exact ⟨reportsByOrder_bindNamed, length_bindNamed⟩
  · rintro ⟨hole, hhole, hpositional⟩ ⟨other, hother, hnamed⟩
    obtain ⟨first, hfirst, hbind⟩ := exists_bind_of_mixed hhole hpositional hother hnamed
    exact ⟨first, _, hfirst, hbind, fun d => message_ne_mixed_of_mem_bindNamed,
      reportsByOrder_bindNamed⟩

/-- Positional properties with a repeated index and a gap: the index is reported once, at its
first property, and the value in the gap after it, also when the properties change places. Next
to a named property the same positional one is reported as mixed and then by order. -/
theorem bind_reports_mismatches_repeated :
    let hole (name : Text) (index : Option Nat) (start : Nat) : Segment :=
      .property
        { name, index, capture := .plain, alignment := none, format := none, start, length := 3 }
    let segments := [hole "3" (some 3) 0, hole "1" (some 1) 3, hole "3" (some 3) 6]
    let others := [hole "1" (some 1) 0, hole "3" (some 3) 3, hole "3" (some 3) 6]
    let mixed := [hole "A" none 0, hole "3" (some 3) 3]
    let values : List Span := [{ line := some 1 }, { line := some 2 }]
    bind segments values id = [(Mismatch.unboundIndex 3).at (.relative 0 3),
        Mismatch.unusedPosition.at { line := some 1 }] ∧
      ReportsByIndex (properties segments) values id (bind segments values id) ∧
      (bind others values id).map Diagnostic.message =
        (bind segments values id).map Diagnostic.message ∧
      bind mixed [] id = [Mismatch.mixed.at (.relative 3 3),
        (Mismatch.unboundName "A").at (.relative 0 3),
        (Mismatch.unboundName "3").at (.relative 3 3)] ∧
      ∃ first rest, IsFirstPositional (properties mixed) first ∧
        bind mixed [] id = Mismatch.mixed.at first.span :: rest ∧
        (∀ d ∈ rest, d.message ≠ Mismatch.mixed.message) ∧
        ReportsByOrder (properties mixed) [] id rest := by
  intro hole segments others mixed values
  have hkind : ∀ hole ∈ properties segments, hole.isPositional = true := by decide
  have hperm : ((properties others).map Property.index).Perm
      ((properties segments).map Property.index) := by decide
  obtain ⟨hreport, hmessages⟩ := (bind_reports_mismatches segments values id).1 hkind
  have hindices : indices (properties segments) = [1, 3] := by
    refine (pairwise_indices _).eq_of_mem_iff (by decide) fun index => ?_
    rw [mem_indices_iff]
    simp only [segments, hole, properties, List.filterMap_cons, List.filterMap_nil,
      List.mem_cons, List.not_mem_nil]
    grind
  have hbind : bind segments values id = [(Mismatch.unboundIndex 3).at (.relative 0 3),
      Mismatch.unusedPosition.at { line := some 1 }] := by
    rw [bind_of_positional hkind (by decide), bindPositional, hindices]
    rfl
  exact ⟨hbind, hreport, hmessages others id hperm, by decide +kernel,
    (bind_reports_mismatches mixed [] id).2.2 (by decide) (by decide)⟩

end Template

end TemplateLint
