import TemplateLint.Template.Binding
import TemplateLint.Template.Naming

/-!
# Templates that match their values

A template matches the values of a call if it has one property for each of them: named
properties are counted, positional ones cover the positions of the values, each at least
once. Main statements: the binding of properties reports nothing exactly when the template
matches the values, and the check of names reports nothing exactly when the names of the named
properties differ from each other and do not start with a small letter.
-/

namespace TemplateLint.Template

variable {holes : List Property} {values : List Span} {locate : Span → Span}

/-- Properties that take `count` values, each of them at least once. -/
inductive Suits (holes : List Property) (count : Nat) : Prop
  /-- The properties are named, and there are as many as values. -/
  | named (hkind : ∀ hole ∈ holes, hole.isPositional = false) (hcount : holes.length = count)
  /-- The properties are positional, and their indices are the positions of the values. -/
  | positional (hkind : ∀ hole ∈ holes, hole.isPositional = true)
      (hindex : ∀ index, (∃ hole ∈ holes, hole.index = some index) ↔ index < count)

/-- The names of the named properties in order. -/
def namesOf (holes : List Property) : List Text :=
  (holes.filter fun hole => !hole.isPositional).map Property.name

/-- The names of the named properties are in order. -/
structure WellNamed (holes : List Property) : Prop where
  /-- No name is given twice. -/
  nodup : (namesOf holes).Nodup
  /-- No name starts with a small letter. -/
  notSmall : ∀ name ∈ namesOf holes, ∀ c, name.head? = some c → c.isAsciiLower = false

/-- By order, nothing is reported exactly when there are as many properties as values. -/
theorem bindNamed_eq_nil_iff :
    bindNamed holes values locate = [] ↔ holes.length = values.length := by
  simp only [bindNamed, List.append_eq_nil_iff, List.map_eq_nil_iff, List.drop_eq_nil_iff]
  omega

/-- The indices are those of the properties. -/
theorem mem_indices_iff {index : Nat} :
    index ∈ indices holes ↔ ∃ hole ∈ holes, hole.index = some index := by
  simp only [indices, List.mem_mergeSort, List.mem_eraseDups, List.mem_filterMap]

/-- Every index past the last value is reported. -/
theorem surplus_indices_eq_nil_iff :
    ((indices holes).filter fun index => decide (values.length ≤ index)).filterMap (fun index =>
      (holes.find? fun hole => decide (hole.index = some index)).map fun hole =>
        (Mismatch.unboundIndex index).at (locate hole.span)) = [] ↔
      ∀ index, (∃ hole ∈ holes, hole.index = some index) → index < values.length := by
  simp only [List.filterMap_eq_nil_iff, List.mem_filter, decide_eq_true_eq,
    Option.map_eq_none_iff, List.find?_eq_none, mem_indices_iff]
  constructor
  · rintro h index ⟨hole, hmem, hindex⟩
    refine Nat.lt_of_not_le fun hlarge => ?_
    exact h index ⟨⟨hole, hmem, hindex⟩, hlarge⟩ hole hmem hindex
  · rintro h index ⟨hused, hlarge⟩
    exact absurd (h index hused) (Nat.not_lt.mpr hlarge)

/-- Every position of a value that is no index is reported. -/
theorem unused_positions_eq_nil_iff :
    ((values.zipIdx.filter fun value => !(indices holes).contains value.2).map
      fun value => Mismatch.unusedPosition.at value.1) = [] ↔
      ∀ index, index < values.length → ∃ hole ∈ holes, hole.index = some index := by
  simp only [List.map_eq_nil_iff, List.filter_eq_nil_iff]
  constructor
  · intro h index hindex
    have hvalue : (values[index], index) ∈ values.zipIdx :=
      List.mk_mem_zipIdx_iff_getElem?.mpr (List.getElem?_eq_getElem hindex)
    simpa [mem_indices_iff] using h _ hvalue
  · rintro h ⟨span, index⟩ hvalue
    have hindex : index < values.length :=
      (List.getElem?_eq_some_iff.mp (List.mk_mem_zipIdx_iff_getElem?.mp hvalue)).1
    simpa [mem_indices_iff] using h index hindex

/-- By index, nothing is reported exactly when the indices are the positions of the values. -/
theorem bindPositional_eq_nil_iff : bindPositional holes values locate = [] ↔
    ∀ index, (∃ hole ∈ holes, hole.index = some index) ↔ index < values.length := by
  rw [bindPositional, List.append_eq_nil_iff, surplus_indices_eq_nil_iff,
    unused_positions_eq_nil_iff, ← forall_and]
  exact forall_congr' fun index => iff_iff_implies_and_implies.symm

/-- Properties of one kind take values only in the way of this kind; without properties, both
ways take no value. -/
theorem Suits.length_eq {count : Nat} (hkind : ∀ hole ∈ holes, hole.isPositional = false)
    (h : Suits holes count) : holes.length = count := by
  cases h with
  | named _ hcount => exact hcount
  | positional hall hindex =>
    have hnil : holes = [] := by
      refine List.eq_nil_iff_forall_not_mem.mpr fun hole hmem => ?_
      have hfalse := (hall hole hmem).symm.trans (hkind hole hmem)
      cases hfalse
    subst hnil
    have hzero : ¬ 0 < count := by simpa using hindex 0
    simp only [List.length_nil]
    omega

/-- Nothing is reported exactly when the properties take the values. The kinds of the
properties decide which way is tried: all named, all positional, or mixed. -/
theorem bind_eq_nil_iff {segments : List Segment} :
    bind segments values locate = [] ↔ Suits (properties segments) values.length := by
  unfold bind
  dsimp only
  split
  · next hfilter =>
    have hkind : ∀ hole ∈ properties segments, hole.isPositional = false := by
      simpa using List.filter_eq_nil_iff.mp hfilter
    rw [bindNamed_eq_nil_iff]
    exact ⟨.named hkind, Suits.length_eq hkind⟩
  · next first rest hfilter =>
    have hfirst : first ∈ (properties segments).filter Property.isPositional := by
      simp [hfilter]
    obtain ⟨hmem, hpositional⟩ := List.mem_filter.mp hfirst
    rw [← hfilter]
    split
    · next hlength =>
      have hkind : ∀ hole ∈ properties segments, hole.isPositional = true :=
        List.filter_eq_self.mp (List.filter_sublist.eq_of_length hlength)
      rw [bindPositional_eq_nil_iff]
      refine ⟨.positional hkind, fun h => ?_⟩
      cases h with
      | named hall _ => simp [hall first hmem] at hpositional
      | positional _ hindex => exact hindex
    · next hlength =>
      refine ⟨nofun, fun h => ?_⟩
      cases h with
      | named hall _ => simp [hall first hmem] at hpositional
      | positional hall _ =>
        exact absurd (congrArg List.length (List.filter_eq_self.mpr hall)) hlength

/-- The check of names in order reports nothing exactly when no name is repeated, none is among
those already seen and none starts with a small letter. -/
theorem checkNames_eq_nil_iff {seen : List Text} : checkNames locate seen holes = [] ↔
    (holes.map Property.name).Nodup ∧ (∀ hole ∈ holes, hole.name ∉ seen) ∧
      ∀ hole ∈ holes, startsSmall hole.name = false := by
  induction holes generalizing seen with
  | nil => simp [checkNames]
  | cons hole rest ih =>
    -- The later names are checked against those already seen and the first one.
    simp only [checkNames, List.append_eq_nil_iff, ih, List.map_cons, List.nodup_cons,
      List.mem_cons, List.mem_map, not_or]
    grind

/-- A name starts with no small letter exactly when its first code point is none. -/
theorem startsSmall_eq_false_iff {name : Text} :
    startsSmall name = false ↔ ∀ c, name.head? = some c → c.isAsciiLower = false := by
  cases name <;> simp [startsSmall]

/-- The names of a template are not reported exactly when they are in order. -/
theorem naming_eq_nil_iff {segments : List Segment} :
    naming segments locate = [] ↔ WellNamed (properties segments) := by
  simp only [naming, checkNames_eq_nil_iff, startsSmall_eq_false_iff]
  constructor
  · rintro ⟨hnodup, -, hsmall⟩
    exact ⟨hnodup, List.forall_mem_map.mpr hsmall⟩
  · rintro ⟨hnodup, hsmall⟩
    exact ⟨hnodup, fun _ _ => List.not_mem_nil, List.forall_mem_map.mp hsmall⟩

end TemplateLint.Template
