import Mathlib.Data.Int.ConditionallyCompleteOrder
import Mathlib.Data.List.Nodup
import Mathlib.Order.CompletePartialOrder
import Mathlib.Order.ConditionallyCompleteLattice.Basic
import TemplateLint.Declare.Symbols
import TemplateLint.Proofs.Source.Balance
import TemplateLint.Proofs.Source.Occurrence

/-!
# Bodies of classes

A body opens with a brace and reaches to the brace that closes it, or to the end of the source if
the brace is closed nowhere. Main statement: of two classes of a source the later one starts
behind the body of the earlier one, or its whole body lies in that body, however the brackets of
the source are mixed; so the classes whose bodies hold an offset lie in each other, and the
innermost of them is found.
-/

namespace TemplateLint.Declare

open Source

section Heads

variable {cursor next : Cursor} {bases : Text}

/-- A constraint ends with a brace. -/
theorem passes_of_constraint? (h : constraint? cursor = some next) : cursor.Passes '{' next := by
  obtain ⟨word, hword, h⟩ := Option.bind_eq_some_iff.mp h
  obtain ⟨_, _, hbrace⟩ := Option.bind_eq_some_iff.mp h
  exact ((Cursor.leads_of_expectWord? hword).trans (word.leads_skip _)).passes
    (Cursor.passes_of_expect? hbrace)

/-- What opens a body ends with a brace. -/
theorem passes_of_bodyOpening? (h : bodyOpening? cursor = some next) :
    cursor.Passes '{' next := by
  refine (cursor.leads_skip CodePoint.isBlank).passes ?_
  rcases Option.or_eq_some_iff.mp h with hconstraint | ⟨_, hbrace⟩
  · exact passes_of_constraint? hconstraint
  · exact Cursor.passes_of_expect? hbrace

/-- Bases end with the brace of the body. -/
theorem passes_of_basesFrom? {offset : Nat} {earlier rest : Text}
    (h : basesFrom? offset earlier rest = some (bases, next)) :
    Cursor.Passes ⟨offset, rest⟩ '{' next := by
  induction rest generalizing offset earlier with
  | nil => cases h
  | cons c rest ih =>
    rw [basesFrom?] at h
    split at h
    · next opened hopened =>
      cases h
      split at hopened
      · cases hopened
      · exact passes_of_bodyOpening? hopened
    · split at h
      · cases h
      · exact (Cursor.leads_advance ⟨offset, c :: rest⟩ 1).passes (ih h)

/-- Bases behind a colon, or none, end with the brace of the body. -/
theorem passes_of_bases? (h : bases? cursor = some (bases, next)) : cursor.Passes '{' next := by
  refine (cursor.leads_skip CodePoint.isBlank).passes ?_
  unfold bases? at h
  dsimp only at h
  split at h
  · next found hfound =>
    cases h
    exact passes_of_basesFrom? hfound
  · split at h
    · cases h
    · obtain ⟨opened, hopened, hresult⟩ := Option.map_eq_some_iff.mp h
      cases hresult
      exact passes_of_bodyOpening? hopened

/-- What follows the name of a class ends with the brace of the body. -/
theorem passes_of_classTail? (h : classTail? cursor = some (bases, next)) :
    cursor.Passes '{' next := by
  have hgeneric := (cursor.leads_skip CodePoint.isBlank).trans
    ((leads_skipAngles classStops _).trans (Cursor.leads_skip _ CodePoint.isBlank))
  refine hgeneric.passes ?_
  unfold classTail? at h
  dsimp only at h
  split at h
  · exact (Cursor.leads_advance _ 1).passes (passes_of_bases? h)
  · obtain ⟨opened, hopened, hresult⟩ := Option.map_eq_some_iff.mp h
    cases hresult
    exact passes_of_bodyOpening? hopened

/-- The head of a class ends with the brace of the body. -/
theorem passes_of_classHead (before : Option CodePoint) (cursor : Cursor) (head : Text × Text)
    (next : Cursor) (h : classHead before cursor = some (head, next)) :
    cursor.Passes '{' next := by
  obtain ⟨_, _, h⟩ := Option.bind_eq_some_iff.mp h
  obtain ⟨word, _, h⟩ := Option.bind_eq_some_iff.mp h
  obtain ⟨nameStart, hblanks, h⟩ := Option.bind_eq_some_iff.mp h
  obtain ⟨⟨name, behind⟩, hname, h⟩ := Option.bind_eq_some_iff.mp h
  have hstart := (cursor.leads_advance word.length).trans (Cursor.leads_of_expectBlanks? hblanks)
  dsimp only at h
  split at h
  · next bases opened htail =>
    cases h
    exact (hstart.trans (leads_of_identifier? hname)).passes (passes_of_classTail? htail)
  · obtain ⟨_, _, h⟩ := Option.bind_eq_some_iff.mp h
    obtain ⟨opened, hconstraint, hresult⟩ := Option.bind_eq_some_iff.mp h
    cases hresult
    exact (hstart.trans (Cursor.leads_advance _ _)).passes (passes_of_constraint? hconstraint)

end Heads

/-- The offsets in the body of a class, from the opening brace to the end. -/
def ClassDecl.body (decl : ClassDecl) : Set Int :=
  Set.Icc (decl.bodyStart : Int) decl.bodyEnd

/-- The body of a class in its masked source. -/
structure HasBody (masked : Text) (decl : ClassDecl) : Prop where
  /-- The body opens with a brace. -/
  opens : masked[decl.bodyStart]? = some (CodePoint.ofChar '{')
  /-- The body ends with the brace that closes it, or with the source if no brace does. -/
  ends : ClosedAt masked decl.bodyStart '}' decl.bodyEnd ∨
    (¬ ∃ closing, ClosedAt masked decl.bodyStart '}' closing) ∧ decl.bodyEnd = masked.length

namespace HasBody

variable {masked : Text} {decl later : ClassDecl}

/-- A body is not empty. -/
theorem start_lt_end (h : HasBody masked decl) : decl.bodyStart < decl.bodyEnd := by
  rcases h.ends with hclosed | ⟨_, hend⟩
  · exact hclosed.start_lt
  · rw [hend]
    exact (List.getElem?_eq_some_iff.mp h.opens).1

/-- A body holds the offset at which it opens. -/
theorem bodyStart_mem (h : HasBody masked decl) : (decl.bodyStart : Int) ∈ decl.body :=
  ⟨Int.le_refl _, Int.ofNat_le.mpr (Nat.le_of_lt h.start_lt_end)⟩

/-- A body ends in the source or with it. -/
theorem end_le_length (h : HasBody masked decl) : decl.bodyEnd ≤ masked.length := by
  rcases h.ends with hclosed | ⟨_, hend⟩
  · exact Nat.le_of_lt (List.getElem?_eq_some_iff.mp hclosed.getElem?_eq).1
  · exact Nat.le_of_eq hend

/-- The brace of a body is closed at its end only. -/
theorem bodyEnd_eq (h : HasBody masked decl) {closing : Nat}
    (hclosed : ClosedAt masked decl.bodyStart '}' closing) : decl.bodyEnd = closing := by
  rcases h.ends with hend | ⟨hnone, _⟩
  · have hfound := hend.findClosing_eq h.opens rfl
    rw [hclosed.findClosing_eq h.opens rfl] at hfound
    exact (Option.some.inj hfound).symm
  · exact absurd ⟨closing, hclosed⟩ hnone

/-- A later class starts behind the body of an earlier one, or its body ends in that body. -/
theorem follows_or_inside (h : HasBody masked decl) (hlater : HasBody masked later)
    (hlt : decl.bodyStart < later.bodyStart) :
    decl.bodyEnd < later.bodyStart ∨ later.bodyEnd ≤ decl.bodyEnd := by
  rcases h.ends with hclosed | ⟨_, hend⟩
  · rcases Nat.lt_trichotomy later.bodyStart decl.bodyEnd with hinside | hsame | hafter
    · obtain ⟨stop, hstop, hbefore⟩ := hclosed.exists_closedAt hlt hinside hlater.opens rfl
      have hend := hlater.bodyEnd_eq hstop
      exact .inr (by omega)
    · -- the closing brace of the one would be the opening brace of the other
      have hbrace := hlater.opens
      rw [hsame, hclosed.getElem?_eq] at hbrace
      cases hbrace
    · exact .inl hafter
  · rw [hend]
    exact .inr hlater.end_le_length

/-- The body of a later class follows that of an earlier one or lies in it. -/
theorem disjoint_or_ssubset (h : HasBody masked decl) (hlater : HasBody masked later)
    (hlt : decl.bodyStart < later.bodyStart) :
    Disjoint decl.body later.body ∨ later.body ⊂ decl.body := by
  rcases h.follows_or_inside hlater hlt with hfollows | hinside
  · refine .inl (Set.disjoint_left.mpr fun offset hoffset hoffset' => ?_)
    have hle := hoffset.2
    have hge := hoffset'.1
    omega
  · refine .inr ⟨Set.Icc_subset_Icc (by omega) (by omega), fun hsubset => ?_⟩
    have hfirst : (decl.bodyStart : Int) ∈ later.body := hsubset h.bodyStart_mem
    have hge := hfirst.1
    omega

end HasBody

/-- The classes of a source have their bodies. -/
theorem hasBody_of_mem_classes {masked : Text} {decl : ClassDecl} (h : decl ∈ classes masked) :
    HasBody masked decl := by
  obtain ⟨found, hfound, rfl⟩ := List.mem_map.mp h
  have hopens := getElem?_of_passes passes_of_classHead hfound
  obtain ⟨_, hnone⟩ := findClosing_matches hopens rfl
  refine ⟨hopens, ?_⟩
  dsimp only
  cases hclosing : findClosing masked (found.stop - 1) with
  | some closing => exact .inl (closedAt_of_findClosing hopens rfl hclosing)
  | none => exact .inr ⟨hnone.mp hclosing, rfl⟩

/-- The bodies of the classes start in the order of the classes. -/
theorem pairwise_bodyStart (masked : Text) :
    (classes masked).Pairwise fun decl later => decl.bodyStart < later.bodyStart := by
  rw [classes, List.pairwise_map]
  refine (pairwise_of_passes passes_of_classHead masked).imp fun hstops => ?_
  dsimp only
  omega

/-- A class is the innermost one at an offset: its body holds the offset and lies in every other
body that does. -/
structure IsInnermost (classes : List ClassDecl) (offset : Int) (inner : ClassDecl) : Prop where
  /-- The class is one of the classes. -/
  mem : inner ∈ classes
  /-- The body holds the offset. -/
  holds : offset ∈ inner.body
  /-- The body lies in every body that holds the offset. -/
  inside : ∀ decl ∈ classes, offset ∈ decl.body → inner.body ⊆ decl.body

/-- The class found so far starts last among those whose bodies hold an offset; none is found as
long as no body holds it. -/
def IsLatest (seen : List ClassDecl) (offset : Int) : Option ClassDecl → Prop
  | none => ∀ decl ∈ seen, offset ∉ decl.body
  | some best => best ∈ seen ∧ offset ∈ best.body ∧
    ∀ decl ∈ seen, offset ∈ decl.body → decl.bodyStart ≤ best.bodyStart

/-- The class to keep of the one found so far and the next one. -/
def nearer (offset : Int) (best : Option ClassDecl) (decl : ClassDecl) : Option ClassDecl :=
  if (decl.bodyStart : Int) ≤ offset ∧ offset ≤ decl.bodyEnd then
    match best with
    | none => some decl
    | some inner => if inner.bodyStart < decl.bodyStart then some decl else best
  else best

/-- The class to keep is the latest one when the next class has been seen too. -/
theorem IsLatest.step {seen : List ClassDecl} {offset : Int} {best : Option ClassDecl}
    (h : IsLatest seen offset best) (decl : ClassDecl) :
    IsLatest (seen ++ [decl]) offset (nearer offset best decl) := by
  have hnext : decl ∈ seen ++ [decl] := List.mem_append_right _ List.mem_cons_self
  unfold nearer
  split
  · next hholds =>
    cases best with
    | none =>
      refine ⟨hnext, hholds, List.forall_mem_append.mpr ⟨fun other hother hin => ?_, ?_⟩⟩
      · exact absurd hin (h other hother)
      · exact List.forall_mem_singleton.mpr fun _ => Nat.le_refl _
    | some inner =>
      obtain ⟨hinner, hin, hlatest⟩ := h
      dsimp only
      split
      · next hlt =>
        refine ⟨hnext, hholds, List.forall_mem_append.mpr ⟨fun other hother hin => ?_, ?_⟩⟩
        · exact Nat.le_trans (hlatest other hother hin) (Nat.le_of_lt hlt)
        · exact List.forall_mem_singleton.mpr fun _ => Nat.le_refl _
      · next hge =>
        exact ⟨List.mem_append_left _ hinner, hin, List.forall_mem_append.mpr
          ⟨hlatest, List.forall_mem_singleton.mpr fun _ => Nat.le_of_not_lt hge⟩⟩
  · next hholds =>
    -- a class whose body does not hold the offset changes nothing
    cases best with
    | none => exact List.forall_mem_append.mpr ⟨h, List.forall_mem_singleton.mpr hholds⟩
    | some inner =>
      obtain ⟨hinner, hin, hlatest⟩ := h
      exact ⟨List.mem_append_left _ hinner, hin, List.forall_mem_append.mpr
        ⟨hlatest, List.forall_mem_singleton.mpr fun hin => absurd hin hholds⟩⟩

/-- Going through classes finds the latest of those whose bodies hold an offset. -/
theorem IsLatest.foldl {seen : List ClassDecl} {offset : Int} {best : Option ClassDecl}
    (h : IsLatest seen offset best) (decls : List ClassDecl) :
    IsLatest (seen ++ decls) offset (decls.foldl (nearer offset) best) := by
  induction decls generalizing seen best with
  | nil =>
    rw [List.append_nil]
    exact h
  | cons decl decls ih =>
    rw [← List.singleton_append, ← List.append_assoc]
    exact ih (h.step decl)

/-- The class that is found around an offset is the latest one whose body holds it. -/
theorem isLatest_enclosingClass (table : Symbols) (offset : Int) :
    IsLatest table.classes offset (table.enclosingClass offset) := by
  have hnone : IsLatest [] offset none := nofun
  exact hnone.foldl table.classes

section Innermost

variable {masked : Text} {decl inner : ClassDecl} {offset : Int}

/-- A class of a source is told by the place where its body opens. -/
theorem eq_of_bodyStart_eq (hdecl : decl ∈ classes masked) (hinner : inner ∈ classes masked)
    (h : decl.bodyStart = inner.bodyStart) : decl = inner := by
  have hdistinct : ((classes masked).map ClassDecl.bodyStart).Nodup :=
    List.pairwise_map.mpr ((pairwise_bodyStart masked).imp Nat.ne_of_lt)
  exact List.inj_on_of_nodup_map hdistinct hdecl hinner h

/-- The latest class whose body holds an offset is the innermost one. -/
theorem IsLatest.isInnermost (h : IsLatest (classes masked) offset (some inner)) :
    IsInnermost (classes masked) offset inner := by
  obtain ⟨hinner, hin, hlatest⟩ := h
  refine ⟨hinner, hin, fun decl hdecl hholds => ?_⟩
  rcases Nat.lt_or_eq_of_le (hlatest decl hdecl hholds) with hlt | hsame
  · rcases (hasBody_of_mem_classes hdecl).disjoint_or_ssubset (hasBody_of_mem_classes hinner) hlt
      with hdisjoint | hinside
    · exact absurd hin (Set.disjoint_left.mp hdisjoint hholds)
    · exact hinside.subset
  · rw [eq_of_bodyStart_eq hdecl hinner hsame]

/-- There is one innermost class at an offset. -/
theorem IsInnermost.eq (hdecl : IsInnermost (classes masked) offset decl)
    (hinner : IsInnermost (classes masked) offset inner) : decl = inner := by
  have hfront := hinner.inside decl hdecl.mem hdecl.holds
    (hasBody_of_mem_classes hinner.mem).bodyStart_mem
  have hback := hdecl.inside inner hinner.mem hinner.holds
    (hasBody_of_mem_classes hdecl.mem).bodyStart_mem
  exact eq_of_bodyStart_eq hdecl.mem hinner.mem
    (Nat.le_antisymm (Int.ofNat_le.mp hfront.1) (Int.ofNat_le.mp hback.1))

end Innermost

/-- The bodies of the classes of a source form a hierarchy, whatever brackets the source holds.
Every body opens with a brace and reaches to the brace that closes it, or to the end of the
source if none does. Of two classes the later one has its body behind that of the earlier one or
strictly in it. The class found around an offset is the one innermost class there, and none is found
exactly if no body holds the offset. -/
theorem class_bodies_nest (text masked : Text) (exceptionTypes : List Text) :
    let table := symbols text masked exceptionTypes
    (∀ decl ∈ table.classes, HasBody masked decl) ∧
      (table.classes.Pairwise fun decl later =>
        Disjoint decl.body later.body ∨ later.body ⊂ decl.body) ∧
      ∀ offset : Int,
        (∀ inner, table.enclosingClass offset = some inner ↔
          IsInnermost table.classes offset inner) ∧
        (table.enclosingClass offset = none ↔ ∀ decl ∈ table.classes, offset ∉ decl.body) := by
  intro table
  have hbodies : ∀ decl ∈ table.classes, HasBody masked decl := fun _ => hasBody_of_mem_classes
  refine ⟨hbodies, ?_, fun offset => ?_⟩
  · exact (pairwise_bodyStart masked).imp_of_mem fun hdecl hlater hlt =>
      (hbodies _ hdecl).disjoint_or_ssubset (hbodies _ hlater) hlt
  · have hlatest := isLatest_enclosingClass table offset
    cases hfound : table.enclosingClass offset with
    | none =>
      rw [hfound] at hlatest
      exact ⟨fun inner => iff_of_false nofun fun hinner => hlatest inner hinner.mem hinner.holds,
        iff_of_true rfl hlatest⟩
    | some best =>
      rw [hfound] at hlatest
      have hbest : IsInnermost table.classes offset best := IsLatest.isInnermost hlatest
      refine ⟨fun inner => ⟨?_, fun hinner => ?_⟩,
        iff_of_false nofun fun hnone => hnone best hbest.mem hbest.holds⟩
      · rintro ⟨⟩
        exact hbest
      · rw [hbest.eq hinner]

/-- Classes in each other and one behind the other. The brackets of the class `A` are mixed, so its
body reaches to the end of the source and takes in the class that follows it; the brace in the
comment closes nothing. -/
theorem class_bodies_nest_mixed :
    let text : Text :=
      "class D \x7b class E \x7b /* \x7d */ \x7d \x7d class A \x7b ( \x7d class C \x7b \x7d"
    let table := symbols text (mask text) []
    (table.classes.map fun decl => (decl.bodyStart, decl.bodyEnd)) =
        [(8, 30), (18, 28), (40, 57), (54, 56)] ∧
      (∃ inner, table.enclosingClass 23 = some inner ∧ inner.bodyStart = 18 ∧
        IsInnermost table.classes 23 inner) ∧
      (∃ inner, table.enclosingClass 55 = some inner ∧ inner.bodyStart = 54 ∧
        IsInnermost table.classes 55 inner) ∧
      table.enclosingClass 35 = none := by
  intro text table
  have hfound : ∀ offset bodyStart, (table.enclosingClass offset).map ClassDecl.bodyStart =
      some bodyStart → ∃ inner, table.enclosingClass offset = some inner ∧
        inner.bodyStart = bodyStart ∧ IsInnermost table.classes offset inner := by
    intro offset bodyStart h
    obtain ⟨inner, hinner, hstart⟩ := Option.map_eq_some_iff.mp h
    exact ⟨inner, hinner, hstart,
      (((class_bodies_nest text (mask text) []).2.2 offset).1 inner).mp hinner⟩
  exact ⟨by decide +kernel, hfound 23 18 (by decide +kernel), hfound 55 54 (by decide +kernel),
    by decide +kernel⟩

end TemplateLint.Declare
