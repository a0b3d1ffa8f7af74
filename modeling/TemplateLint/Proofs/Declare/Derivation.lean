import TemplateLint.Declare.Symbols
import Mathlib.Data.List.Nodup
import Mathlib.Logic.Relation

/-!
# Types that derive from exception types

A type is tried by its full name and by its simple name, but its bases and the types already
met are found by simple names alone. Main statement: the search ends on every table of classes,
cyclic or not, and looks at one type for each simple name that a chain of bases leads to. So
it finds an exception type exactly if there is a chain to one, and the order of the bases does
not matter, as long as types of one simple name are exception types together.
-/

namespace TemplateLint.Declare

open Source

variable {classes : List ClassDecl} {types met pending : List Text}

/-- The first class with the simple name of a type lists a base. -/
def HasBase (classes : List ClassDecl) (typeName base : Text) : Prop :=
  base ∈ basesOf classes (simpleName typeName)

/-- A chain of bases, perhaps of no step, leads from one type to another. -/
def Derives (classes : List ClassDecl) : Text → Text → Prop :=
  Relation.ReflTransGen (HasBase classes)

/-- The types that the search looks at as long as it finds no exception type, in order. -/
def lookedAt (classes : List ClassDecl) (met pending : List Text) : List Text :=
  match pending with
  | [] => []
  | current :: rest =>
    if simpleName current ∈ met then lookedAt classes met rest
    else
      current :: lookedAt classes (simpleName current :: met)
        ((basesOf classes (simpleName current)).reverse ++ rest)
termination_by openBases met classes + pending.length
decreasing_by
  · simp only [List.length_cons]
    omega
  · next hmet =>
    have hopen := basesOf_add_openBases_le classes hmet
    simp only [List.length_append, List.length_reverse, List.length_cons]
    omega

/-- Two types of one simple name that can be reached are exception types together. -/
def Symbols.Uniform (symbols : Symbols) (typeName : Text) : Prop :=
  ∀ t t', Derives symbols.classes typeName t → Derives symbols.classes typeName t' →
    simpleName t = simpleName t' →
      isExceptionName symbols.exceptionTypes t = isExceptionName symbols.exceptionTypes t'

/-- The same table with the bases of each class in another order. -/
structure Symbols.Reordered (symbols other : Symbols) : Prop where
  /-- Class by class the name is the same, and so are the bases but for their order. -/
  classes : List.Forall₂ (fun decl decl' => decl.name = decl'.name ∧ decl.bases.Perm decl'.bases)
    symbols.classes other.classes
  /-- The exception types are the same. -/
  exceptionTypes : symbols.exceptionTypes = other.exceptionTypes

/-- The search answers whether one of the types it would look at is an exception type. -/
theorem reachesException_eq_any (classes : List ClassDecl) (types met pending : List Text) :
    reachesException classes types met pending =
      (lookedAt classes met pending).any (isExceptionName types) := by
  fun_induction reachesException classes types met pending with
  | case1 met => rw [lookedAt, List.any_nil]
  | case2 met current rest hmet ih => rw [lookedAt, if_pos hmet, ih]
  | case3 met current rest hmet hexception =>
    rw [lookedAt, if_neg hmet, List.any_cons, hexception, Bool.true_or]
  | case4 met current rest hmet hexception ih =>
    rw [lookedAt, if_neg hmet, List.any_cons, Bool.of_not_eq_true hexception,
      Bool.false_or, ih]

/-- The search looks only at types to which a chain of bases leads. -/
theorem derives_of_mem_lookedAt {t : Text} (h : t ∈ lookedAt classes met pending) :
    ∃ start ∈ pending, Derives classes start t := by
  fun_induction lookedAt classes met pending with
  | case1 => cases h
  | case2 met current rest hmet ih =>
    obtain ⟨start, hstart, hchain⟩ := ih h
    exact ⟨start, List.mem_cons_of_mem _ hstart, hchain⟩
  | case3 met current rest hmet ih =>
    rcases List.mem_cons.mp h with rfl | hlater
    · exact ⟨t, List.mem_cons_self, .refl⟩
    · obtain ⟨start, hstart, hchain⟩ := ih hlater
      rcases List.mem_append.mp hstart with hbase | hrest
      · have hfirst : HasBase classes current start := List.mem_reverse.mp hbase
        exact ⟨current, List.mem_cons_self, .head hfirst hchain⟩
      · exact ⟨start, List.mem_cons_of_mem _ hrest, hchain⟩

/-- From a single type the search looks at types that it derives from. -/
theorem derives_of_mem_lookedAt_singleton {start t : Text}
    (h : t ∈ lookedAt classes met [start]) : Derives classes start t := by
  obtain ⟨first, hfirst, hchain⟩ := derives_of_mem_lookedAt h
  rwa [List.mem_singleton.mp hfirst] at hchain

/-- No simple name is looked at twice, nor after it was met. -/
theorem nodup_lookedAt (classes : List ClassDecl) (met pending : List Text) :
    (∀ t ∈ lookedAt classes met pending, simpleName t ∉ met) ∧
      ((lookedAt classes met pending).map simpleName).Nodup := by
  fun_induction lookedAt classes met pending with
  | case1 => exact ⟨nofun, .nil⟩
  | case2 met current rest hmet ih => exact ih
  | case3 met current rest hmet ih =>
    obtain ⟨hfresh, hnodup⟩ := ih
    refine ⟨List.forall_mem_cons.mpr ⟨hmet, fun t ht hearlier => ?_⟩,
      List.nodup_cons.mpr ⟨?_, hnodup⟩⟩
    · exact hfresh t ht (List.mem_cons_of_mem _ hearlier)
    · intro hagain
      obtain ⟨t, ht, hname⟩ := List.mem_map.mp hagain
      exact hfresh t ht (hname ▸ List.mem_cons_self)

/-- A simple name was met, or the search looks at a type that has it. -/
def IsCovered (classes : List ClassDecl) (met pending : List Text) (typeName : Text) : Prop :=
  simpleName typeName ∈ met ∨
    ∃ looked ∈ lookedAt classes met pending, simpleName looked = simpleName typeName

/-- What is covered after a type was looked at is covered from there on. -/
theorem IsCovered.of_step {current t : Text} {rest : List Text} (hmet : simpleName current ∉ met)
    (h : IsCovered classes (simpleName current :: met)
      ((basesOf classes (simpleName current)).reverse ++ rest) t) :
    IsCovered classes met (current :: rest) t := by
  rw [IsCovered, lookedAt, if_neg hmet]
  rcases h with hearlier | ⟨looked, hlooked, hname⟩
  · rcases List.mem_cons.mp hearlier with hname | hearlier
    · exact .inr ⟨current, List.mem_cons_self, hname.symm⟩
    · exact .inl hearlier
  · exact .inr ⟨looked, List.mem_cons_of_mem _ hlooked, hname⟩

/-- All pending types are covered, and with each type that is looked at its bases. -/
theorem isCovered_lookedAt (classes : List ClassDecl) (met pending : List Text) :
    (∀ t ∈ pending, IsCovered classes met pending t) ∧
      ∀ t ∈ lookedAt classes met pending, ∀ base, HasBase classes t base →
        IsCovered classes met pending base := by
  fun_induction lookedAt classes met pending with
  | case1 => exact ⟨nofun, nofun⟩
  | case2 met current rest hmet ih =>
    have hstep : ∀ t, IsCovered classes met rest t → IsCovered classes met (current :: rest) t := by
      intro t h
      rw [IsCovered, lookedAt, if_pos hmet]
      exact h
    refine ⟨List.forall_mem_cons.mpr ⟨.inl hmet, fun t ht => hstep t (ih.1 t ht)⟩, ?_⟩
    intro t ht base hbase
    exact hstep base (ih.2 t ht base hbase)
  | case3 met current rest hmet ih =>
    obtain ⟨hpending, hclosed⟩ := ih
    refine ⟨List.forall_mem_cons.mpr ⟨?_, fun t ht => ?_⟩, List.forall_mem_cons.mpr ⟨?_, ?_⟩⟩
    · exact .of_step hmet (.inl List.mem_cons_self)
    · exact .of_step hmet (hpending t (List.mem_append_right _ ht))
    · intro base hbase
      exact .of_step hmet (hpending base (List.mem_append_left _ (List.mem_reverse.mpr hbase)))
    · intro t ht base hbase
      exact .of_step hmet (hclosed t ht base hbase)

/-- For every type that can be reached the search looks at one with its simple name. -/
theorem exists_mem_lookedAt {start t : Text} (h : Derives classes start t) :
    ∃ looked ∈ lookedAt classes [] [start], simpleName looked = simpleName t := by
  obtain ⟨hpending, hclosed⟩ := isCovered_lookedAt classes [] [start]
  -- along the chain: the bases of a type are those of every type with its simple name
  induction h with
  | refl => exact (hpending start List.mem_cons_self).resolve_left List.not_mem_nil
  | @tail t base _ hbase ih =>
    obtain ⟨looked, hlooked, hname⟩ := ih
    have hsame : HasBase classes looked base := by
      rw [HasBase, hname]
      exact hbase
    exact (hclosed looked hlooked base hsame).resolve_left List.not_mem_nil

/-- The answer for a type that has a name. -/
theorem Symbols.isException_iff_lookedAt {symbols : Symbols} {typeName : Text}
    (h : typeName ≠ []) :
    symbols.isException (some typeName) = true ↔
      ∃ t ∈ lookedAt symbols.classes [] [typeName],
        isExceptionName symbols.exceptionTypes t = true := by
  obtain ⟨c, rest, rfl⟩ := List.exists_cons_of_ne_nil h
  change reachesException symbols.classes symbols.exceptionTypes [] [c :: rest] = true ↔ _
  rw [reachesException_eq_any, List.any_eq_true]

/-- Without ambiguous names the search finds an exception type whenever there is a chain to
one. -/
theorem Symbols.Uniform.isException_iff {symbols : Symbols} {typeName : Text}
    (huniform : symbols.Uniform typeName) (h : typeName ≠ []) :
    symbols.isException (some typeName) = true ↔
      ∃ t, Derives symbols.classes typeName t ∧
        isExceptionName symbols.exceptionTypes t = true := by
  rw [isException_iff_lookedAt h]
  constructor
  · rintro ⟨t, ht, hexception⟩
    exact ⟨t, derives_of_mem_lookedAt_singleton ht, hexception⟩
  · rintro ⟨t, hchain, hexception⟩
    obtain ⟨looked, hlooked, hname⟩ := exists_mem_lookedAt hchain
    have hreached := derives_of_mem_lookedAt_singleton hlooked
    exact ⟨looked, hlooked, (huniform looked t hreached hchain hname).trans hexception⟩

/-- If every configured exception type is a simple name, no names are ambiguous. -/
theorem Symbols.uniform_of_simple {symbols : Symbols}
    (h : ∀ t ∈ symbols.exceptionTypes, simpleName t = t) (typeName : Text) :
    symbols.Uniform typeName := by
  have hsimple : ∀ t, isExceptionName symbols.exceptionTypes t =
      (symbols.exceptionTypes.contains (simpleName t) ||
        Text.endsWith (simpleName t) "Exception") := by
    intro t
    by_cases ht : t ∈ symbols.exceptionTypes
    · rw [isExceptionName, h t ht, Bool.or_self]
    · rw [isExceptionName, List.contains_eq_mem, decide_eq_false ht, Bool.false_or]
  intro t t' _ _ hname
  rw [hsimple, hsimple, hname]

/-- The first class with a name has the same bases in both orders. -/
theorem mem_basesOf_iff {classes other : List ClassDecl}
    (h : List.Forall₂ (fun decl decl' => decl.name = decl'.name ∧ decl.bases.Perm decl'.bases)
      classes other) (name base : Text) :
    base ∈ basesOf other name ↔ base ∈ basesOf classes name := by
  induction h with
  | nil => rfl
  | @cons decl decl' rest rest' hfirst _ ih =>
    rw [basesOf_cons, basesOf_cons, hfirst.1]
    split
    · exact hfirst.2.symm.mem_iff
    · exact ih

/-- The same chains lead from type to type in both orders. -/
theorem Symbols.Reordered.derives_eq {symbols other : Symbols} (h : symbols.Reordered other) :
    Derives other.classes = Derives symbols.classes := by
  have hbase : HasBase other.classes = HasBase symbols.classes := by
    funext t base
    exact propext (mem_basesOf_iff h.classes (simpleName t) base)
  rw [Derives, hbase, Derives]

/-- Names are ambiguous in both orders or in none. -/
theorem Symbols.Uniform.of_reordered {symbols other : Symbols} {typeName : Text}
    (huniform : symbols.Uniform typeName) (h : symbols.Reordered other) :
    other.Uniform typeName := by
  rw [Uniform, h.derives_eq, ← h.exceptionTypes]
  exact huniform

/-- What the search for an exception type finds, for every table of classes and every type. It
looks at types to which a chain of bases leads, one for each simple name that can be reached, and
answers whether one of these is an exception type. If types of one simple name are exception
types together, it finds one exactly if there is a chain to one, and the answer does not depend
on the order in which the classes list their bases. -/
theorem isException_looks_once {symbols : Symbols} {typeName : Text} (h : typeName ≠ []) :
    (symbols.isException (some typeName) = true ↔
      ∃ t ∈ lookedAt symbols.classes [] [typeName],
        isExceptionName symbols.exceptionTypes t = true) ∧
    (∀ t ∈ lookedAt symbols.classes [] [typeName], Derives symbols.classes typeName t) ∧
    (∀ t, Derives symbols.classes typeName t →
      ∃! looked, looked ∈ lookedAt symbols.classes [] [typeName] ∧
        simpleName looked = simpleName t) ∧
    (symbols.Uniform typeName →
      (symbols.isException (some typeName) = true ↔
        ∃ t, Derives symbols.classes typeName t ∧
          isExceptionName symbols.exceptionTypes t = true) ∧
      ∀ other, symbols.Reordered other →
        other.isException (some typeName) = symbols.isException (some typeName)) := by
  refine ⟨Symbols.isException_iff_lookedAt h, fun t => derives_of_mem_lookedAt_singleton, ?_, ?_⟩
  · intro t hchain
    obtain ⟨looked, hlooked, hname⟩ := exists_mem_lookedAt hchain
    refine ⟨looked, ⟨hlooked, hname⟩, ?_⟩
    rintro other ⟨hother, hsame⟩
    have hnodup := (nodup_lookedAt symbols.classes [] [typeName]).2
    exact List.inj_on_of_nodup_map hnodup hother hlooked (hsame.trans hname.symm)
  · intro huniform
    refine ⟨huniform.isException_iff h, fun other hother => ?_⟩
    have hboth := huniform.of_reordered hother
    rw [Bool.eq_iff_iff, hboth.isException_iff h, huniform.isException_iff h,
      hother.derives_eq, hother.exceptionTypes]

/-- Two classes that derive from each other, with qualified and generic bases, and a later class
that the first of its name hides: the exception type behind them is found. -/
theorem isException_looks_once_cyclic :
    let symbols : Symbols :=
      { classes := [⟨"A", ["N.B", "C"], 0, 0, false⟩, ⟨"B", ["A", "M.Failure<T>"], 0, 0, false⟩,
          ⟨"B", ["C"], 0, 0, false⟩]
        exceptionTypes := ["Exception", "Failure"] }
    symbols.Uniform "A" ∧ symbols.isException (some (Text.ofString "A")) = true := by
  intro symbols
  have huniform : symbols.Uniform "A" := Symbols.uniform_of_simple (by decide) "A"
  have hname : Text.ofString "A" ≠ [] := by decide
  have hfirst : HasBase symbols.classes "A" "N.B" := by
    rw [HasBase]
    decide
  have hsecond : HasBase symbols.classes "N.B" "M.Failure<T>" := by
    rw [HasBase]
    decide
  have hchain : Derives symbols.classes "A" "M.Failure<T>" := .tail (.tail .refl hfirst) hsecond
  refine ⟨huniform, ((isException_looks_once hname).2.2.2 huniform).1.mpr ?_⟩
  exact ⟨"M.Failure<T>", hchain, by decide⟩

/-- A qualified exception type is not found behind another type with its simple name: the bases
are tried from the last, and the simple name is then met. In the other order it is found. -/
theorem qualified_base_hidden :
    let table (text : Text) := symbols text (mask text) ["X.Failure"]
    let hidden := table "class A : X.Failure, Failure { }"
    let found := table "class A : Failure, X.Failure { }"
    Derives hidden.classes "A" "X.Failure" ∧
      isExceptionName hidden.exceptionTypes "X.Failure" = true ∧
      hidden.isException (some (Text.ofString "A")) = false ∧
      found.isException (some (Text.ofString "A")) = true := by
  intro table hidden found
  have hbase : HasBase hidden.classes "A" "X.Failure" := by
    rw [HasBase]
    decide +kernel
  exact ⟨.single hbase, by decide, by decide +kernel, by decide +kernel⟩

end TemplateLint.Declare
