import TemplateLint.Text.Basic

/-!
# Outcomes and slices

Two kinds of facts that every reading rests on: what the success of a chain of
fallible steps says about each step, and which part of a text a slice holds when
the text is known as a concatenation.
-/

namespace TemplateLint

namespace Outcome

variable {ε α β γ : Type}

/-- A mapped outcome succeeds only through the outcome itself. -/
theorem map_eq_ok {f : α → β} {x : Except ε α} {b : β} (h : x.map f = .ok b) :
    ∃ a, x = .ok a ∧ f a = b := by
  cases x with
  | error e => cases h
  | ok a =>
    cases h
    exact ⟨a, rfl, rfl⟩

/-- Mapping an outcome twice is mapping it once. -/
theorem map_map (x : Except ε α) (f : α → β) (g : β → γ) :
    (x.map f).map g = x.map fun a => g (f a) := by
  cases x <;> rfl

/-- Mapping an outcome does not change whether it succeeds. -/
theorem exists_map_ok {f : α → β} {x : Except ε α} :
    (∃ b, x.map f = .ok b) ↔ ∃ a, x = .ok a := by
  cases x with
  | error e => exact ⟨nofun, nofun⟩
  | ok a => exact ⟨fun _ => ⟨a, rfl⟩, fun _ => ⟨f a, rfl⟩⟩

/-- A step that succeeds hands its result on. -/
theorem ok_bind (a : α) (f : α → Except ε β) : (Except.ok a >>= f) = f a := rfl

/-- A step followed by another succeeds only if both do. -/
theorem bind_eq_ok {f : α → Except ε β} {x : Except ε α} {b : β} (h : (x >>= f) = .ok b) :
    ∃ a, x = .ok a ∧ f a = .ok b := by
  cases x with
  | error e => cases h
  | ok a => exact ⟨a, rfl, h⟩

/-- A step followed by another fails where one of them does. -/
theorem bind_eq_error {f : α → Except ε β} {x : Except ε α} {e : ε} (h : (x >>= f) = .error e) :
    x = .error e ∨ ∃ a, x = .ok a ∧ f a = .error e := by
  cases x with
  | error other =>
    cases h
    exact .inl rfl
  | ok a => exact .inr ⟨a, rfl, h⟩

/-- A step followed by another succeeds exactly when both do. -/
theorem exists_bind_ok_iff {f : α → Except ε β} {x : Except ε α} :
    (∃ b, (x >>= f) = .ok b) ↔ ∃ a, x = .ok a ∧ ∃ b, f a = .ok b := by
  constructor
  · rintro ⟨b, h⟩
    obtain ⟨a, ha, hb⟩ := bind_eq_ok h
    exact ⟨a, ha, b, hb⟩
  · rintro ⟨a, rfl, b, hb⟩
    exact ⟨b, hb⟩

/-- What a list of fallible steps gives comes from the steps. -/
theorem exists_of_mem_mapM {f : α → Except ε β} {xs : List α} {ys : List β}
    (h : xs.mapM f = .ok ys) {y : β} (hy : y ∈ ys) : ∃ x ∈ xs, f x = .ok y := by
  induction xs generalizing ys with
  | nil =>
    cases h
    cases hy
  | cons x xs ih =>
    rw [List.mapM_cons] at h
    obtain ⟨first, hfirst, h⟩ := bind_eq_ok h
    obtain ⟨rest, hrest, h⟩ := bind_eq_ok h
    cases h
    rcases List.mem_cons.mp hy with rfl | hlater
    · exact ⟨x, List.mem_cons_self, hfirst⟩
    · obtain ⟨later, hmem, hfound⟩ := ih hrest hlater
      exact ⟨later, List.mem_cons_of_mem _ hmem, hfound⟩

/-- A list of fallible steps fails as one of the steps does. -/
theorem exists_of_mapM_error {f : α → Except ε β} {xs : List α} {e : ε}
    (h : xs.mapM f = .error e) : ∃ x ∈ xs, f x = .error e := by
  induction xs with
  | nil => cases h
  | cons x xs ih =>
    rw [List.mapM_cons] at h
    rcases bind_eq_error h with hfirst | ⟨first, _, h⟩
    · exact ⟨x, List.mem_cons_self, hfirst⟩
    · rcases bind_eq_error h with hrest | ⟨rest, _, h⟩
      · obtain ⟨later, hmem, hfailed⟩ := ih hrest
        exact ⟨later, List.mem_cons_of_mem _ hmem, hfailed⟩
      · cases h

/-- A list of fallible steps gives a list exactly when each step gives its item. -/
theorem mapM_eq_ok_iff {f : α → Except ε β} {xs : List α} {ys : List β} :
    xs.mapM f = .ok ys ↔ xs.map f = ys.map .ok := by
  induction xs generalizing ys with
  | nil => cases ys <;> simp [pure, Except.pure]
  | cons x xs ih =>
    rw [List.mapM_cons]
    constructor
    · intro h
      obtain ⟨first, hfirst, h⟩ := bind_eq_ok h
      obtain ⟨rest, hrest, h⟩ := bind_eq_ok h
      cases h
      rw [List.map_cons, List.map_cons, hfirst, ih.mp hrest]
    · intro h
      cases ys with
      | nil => cases h
      | cons y ys =>
        obtain ⟨hfirst, hrest⟩ := List.cons.inj h
        rw [hfirst, ok_bind, ih.mpr hrest]
        rfl

/-- Two maps agree on some list with a given one exactly when they do item by item. -/
theorem exists_map_eq_map_iff {f : α → γ} {g : β → γ} {xs : List α} :
    (∃ ys : List β, xs.map f = ys.map g) ↔ ∀ x ∈ xs, ∃ y, f x = g y := by
  induction xs with
  | nil => exact iff_of_true ⟨[], rfl⟩ (List.forall_mem_nil _)
  | cons x xs ih =>
    rw [List.forall_mem_cons, ← ih]
    constructor
    · rintro ⟨ys, h⟩
      cases ys with
      | nil => cases h
      | cons y ys =>
        obtain ⟨hfirst, hrest⟩ := List.cons.inj h
        exact ⟨⟨y, hfirst⟩, ys, hrest⟩
    · rintro ⟨⟨y, hfirst⟩, ys, hrest⟩
      exact ⟨y :: ys, by rw [List.map_cons, List.map_cons, hfirst, hrest]⟩

/-- A list of fallible steps succeeds exactly when every step does. -/
theorem exists_mapM_ok_iff {f : α → Except ε β} {xs : List α} :
    (∃ ys, xs.mapM f = .ok ys) ↔ ∀ x ∈ xs, ∃ y, f x = .ok y := by
  simp only [mapM_eq_ok_iff, exists_map_eq_map_iff]

/-- A list of optional steps gives a list exactly when each step gives its item. -/
theorem mapM_eq_some_iff {f : α → Option β} {xs : List α} {ys : List β} :
    xs.mapM f = some ys ↔ xs.map f = ys.map some := by
  induction xs generalizing ys with
  | nil => cases ys <;> simp
  | cons x xs ih =>
    rw [List.mapM_cons]
    constructor
    · intro h
      obtain ⟨first, hfirst, h⟩ := Option.bind_eq_some_iff.mp h
      obtain ⟨rest, hrest, h⟩ := Option.bind_eq_some_iff.mp h
      cases h
      rw [List.map_cons, List.map_cons, hfirst, ih.mp hrest]
    · intro h
      cases ys with
      | nil => cases h
      | cons y ys =>
        obtain ⟨hfirst, hrest⟩ := List.cons.inj h
        rw [hfirst, ih.mpr hrest]
        rfl

/-- A list of optional steps succeeds exactly when every step does. -/
theorem exists_mapM_some_iff {f : α → Option β} {xs : List α} :
    (∃ ys, xs.mapM f = some ys) ↔ ∀ x ∈ xs, ∃ y, f x = some y := by
  simp only [mapM_eq_some_iff, exists_map_eq_map_iff]

end Outcome

namespace Text

/-- The slice that starts after the first of three parts and has the length of the second
is the second. -/
theorem slice_append_append (before middle after : Text) :
    slice (before ++ (middle ++ after)) before.length (before.length + middle.length) =
      middle := by
  rw [slice, List.drop_left, Nat.add_sub_cancel_left, List.take_left]

end Text

end TemplateLint
