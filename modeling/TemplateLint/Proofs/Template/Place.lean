import TemplateLint.Proofs.Basic
import TemplateLint.Proofs.Text.Cut
import TemplateLint.Template.Parser

/-!
# Places in a template

What parsing reports lies in the template: a fault covers at least one code point, and
neither a fault nor a property reaches past the end. Every reader is given the offsets
between which it may report, and a chain of readers keeps to the offsets of its parts.
-/

namespace TemplateLint.Template

variable {α β : Type}

/-- Every fault that a reading reports is not empty and lies between two offsets. -/
def Contained (start stop : Nat) (x : Except Rejection α) : Prop :=
  ∀ fault, x = .error (.malformed fault) →
    start ≤ fault.start ∧ 1 ≤ fault.length ∧ fault.start + fault.length ≤ stop

/-- A reading that succeeds reports no fault. -/
theorem contained_ok (start stop : Nat) (a : α) : Contained start stop (.ok a) :=
  nofun

/-- A fault of one code point lies where this code point does. -/
theorem contained_at {start stop place : Nat} (cause : Cause) (hstart : start ≤ place)
    (hstop : place < stop) :
    Contained start stop (.error (.at cause place) : Except Rejection α) := by
  intro fault h
  cases h
  exact ⟨hstart, Nat.le_refl 1, hstop⟩

/-- Wider offsets contain what narrower ones do. -/
theorem Contained.mono {start stop first last : Nat} {x : Except Rejection α}
    (h : Contained start stop x) (hfirst : first ≤ start) (hlast : stop ≤ last) :
    Contained first last x := by
  intro fault hfault
  have := h fault hfault
  omega

/-- A reading followed by another reports between the offsets of both. -/
theorem Contained.bind {start stop : Nat} {x : Except Rejection α} {f : α → Except Rejection β}
    (h : Contained start stop x) (hf : ∀ a, x = .ok a → Contained start stop (f a)) :
    Contained start stop (x >>= f) := by
  cases x with
  | error rejection =>
    intro fault hfault
    cases hfault
    exact h fault rfl
  | ok a => exact hf a rfl

/-- What is done with a result reports no fault. -/
theorem Contained.map {start stop : Nat} {x : Except Rejection α} {f : α → β}
    (h : Contained start stop x) : Contained start stop (x.map f) := by
  cases x with
  | error rejection =>
    intro fault hfault
    cases hfault
    exact h fault rfl
  | ok a => exact contained_ok start stop (f a)

/-- A number is never reported as a fault. -/
theorem contained_readNumeral (start stop : Nat) (digits : Text) :
    Contained start stop (readNumeral digits) := by
  intro fault h
  unfold readNumeral Text.readNumeral at h
  split at h <;> cases h

/-- The first code point that is refused is one of those that are checked. -/
theorem contained_checkAll (valid : CodePoint → Bool) (cause : CodePoint → Cause) (start : Nat)
    (t : Text) : Contained start (start + t.length) (checkAll valid cause start t) := by
  induction t generalizing start with
  | nil => exact contained_ok _ _ ()
  | cons c rest ih =>
    rw [checkAll, List.length_cons]
    split
    · exact (ih (start + 1)).mono (by omega) (by omega)
    · exact contained_at _ (Nat.le_refl start) (by omega)

/-- A fault of an alignment lies between its comma and its end. -/
theorem contained_readAlignment (commaAt : Nat) (text : Text) :
    Contained commaAt (commaAt + 1 + text.length) (readAlignment commaAt text) := by
  unfold readAlignment
  by_cases htext : text = []
  · rw [if_pos htext]
    exact contained_at _ (Nat.le_refl _) (by omega)
  · rw [if_neg htext]
    dsimp only
    have hpos := List.length_pos_iff.mpr htext
    generalize decide (text.head? = some (CodePoint.ofChar '-')) = isLeft
    generalize hdigits : (if isLeft = true then List.tail text else text) = digits
    have hlength : digits.length ≤ text.length := by
      rw [← hdigits]
      split
      · rw [List.length_tail]
        omega
      · exact Nat.le_refl _
    have hcheck := contained_checkAll CodePoint.isAsciiDigit
      (fun c => if c = '-' then .misplacedMinus else .alignmentChar c)
      (commaAt + 1 + (text.length - digits.length)) digits
    refine (hcheck.mono (by omega) (by omega)).bind fun _ _ => ?_
    split
    · exact contained_at _ (Nat.le_refl _) (by omega)
    · refine (contained_readNumeral _ _ digits).bind fun value _ => ?_
      split
      · exact contained_at _ (by omega) (by omega)
      · exact contained_ok _ _ _

/-- A fault of a name is the whole property or lies in the name. -/
theorem contained_readName {brace length start stop : Nat} (hinted : Bool) {name : Text}
    (hlength : 1 ≤ length) (hstop : brace + length ≤ stop) (hstart : brace ≤ start)
    (hname : start + name.length ≤ stop) :
    Contained brace stop (readName brace length start hinted name) := by
  unfold readName
  split
  · intro fault h
    cases h
    exact ⟨Nat.le_refl _, hlength, hstop⟩
  · exact (contained_checkAll _ _ start name).mono hstart hname

/-- The part behind a mark and its mark follow the part in front of it. -/
theorem length_before_after (mark : CodePoint) (t : Text) :
    (t.before mark).length ≤ t.length ∧
      ∀ part, t.after? mark = some part → (t.before mark).length + 1 + part.length = t.length := by
  have hlength := congrArg List.length (Text.before_append_marked mark t)
  rw [List.length_append] at hlength
  refine ⟨by omega, fun part hpart => ?_⟩
  rw [hpart, Text.marked, List.length_cons] at hlength
  omega

/-- A fault of a property lies between its braces, or is the whole property. -/
theorem contained_readProperty (start : Nat) (body : Text) :
    Contained start (start + body.length + 2) (readProperty start body) := by
  unfold readProperty
  dsimp only
  obtain ⟨hhead, hformat⟩ := length_before_after ':' body
  obtain ⟨hlabel, halign⟩ := length_before_after ',' (body.before ':')
  generalize body.before ':' = head at *
  generalize head.before ',' = label at *
  generalize hname : (if decide (readCapture label ≠ .plain) = true then List.tail label
    else label) = name
  have hlength : name.length ≤ label.length := by
    rw [← hname]
    split
    · rw [List.length_tail]
      omega
    · exact Nat.le_refl _
  refine (contained_readName _ (by omega) (by omega) (by omega) (by omega)).bind fun _ _ => ?_
  refine Contained.bind ?_ fun alignment _ => ?_
  · cases hafter : head.after? ',' with
    | none => exact contained_ok _ _ _
    | some text =>
      have hcomma := halign text hafter
      rw [Option.mapM_some]
      exact ((contained_readAlignment _ text).mono (by omega) (by omega)).map
  refine Contained.bind ?_ fun _ _ => ?_
  · cases hafter : body.after? ':' with
    | none => exact contained_ok _ _ _
    | some format =>
      have hcolon := hformat format hafter
      exact (contained_checkAll _ _ _ format).mono (by omega) (by omega)
  split
  · exact (contained_readNumeral _ _ name).map.bind fun index _ => contained_ok _ _ _
  · exact contained_ok _ _ _

/-- A property reaches from its opening to its closing brace. -/
theorem place_of_readProperty {start : Nat} {body : Text} {hole : Property}
    (h : readProperty start body = .ok hole) :
    hole.start = start ∧ hole.length = body.length + 2 := by
  unfold readProperty at h
  dsimp only at h
  generalize (if decide (readCapture ((body.before ':').before ',') ≠ .plain) = true then
    List.tail ((body.before ':').before ',') else (body.before ':').before ',') = name at h
  obtain ⟨_, _, h⟩ := Outcome.bind_eq_ok h
  obtain ⟨alignment, _, h⟩ := Outcome.bind_eq_ok h
  obtain ⟨_, _, h⟩ := Outcome.bind_eq_ok h
  split at h
  · obtain ⟨index, _, h⟩ := Outcome.bind_eq_ok h
    cases h
    exact ⟨rfl, rfl⟩
  · cases h
    exact ⟨rfl, rfl⟩

/-- A brace, what stands up to its closing brace and the rest have the length of the
template. -/
theorem length_of_cut? {mark : CodePoint} {t left right : Text}
    (h : Text.cut? mark t = some (left, right)) : left.length + 1 + right.length = t.length := by
  have hlength := congrArg List.length (Text.eq_of_cut? h)
  rw [List.length_append, List.length_cons] at hlength
  omega

/-- A fault lies in the template. -/
theorem contained_pieces (start : Nat) (template : Text) :
    Contained start (start + template.length) (pieces start template) := by
  fun_induction pieces start template with
  | case1 => exact contained_ok _ _ _
  | case2 start rest hdouble ih =>
    obtain ⟨tail, rfl⟩ := List.head?_eq_some_iff.mp hdouble
    rw [List.length_cons, List.length_cons]
    rw [List.tail_cons] at ih
    exact (ih.mono (by omega) (by omega)).map
  | case3 start rest _ _ =>
    intro fault h
    cases h
    rw [List.length_cons]
    exact ⟨Nat.le_refl _, Nat.le_add_left 1 _, Nat.le_refl _⟩
  | case4 start rest _ body tail hcut ih =>
    have hlength := length_of_cut? hcut
    rw [List.length_cons]
    refine ((contained_readProperty start body).mono (Nat.le_refl _) (by omega)).bind
      fun hole hhole => ?_
    have hplace := place_of_readProperty hhole
    refine ((ih hole).mono (by omega) (by omega)).bind fun more _ => contained_ok _ _ _
  | case5 start c rest _ hdouble ih =>
    obtain ⟨tail, rfl⟩ := List.head?_eq_some_iff.mp hdouble.2
    rw [List.length_cons, List.length_cons]
    rw [List.tail_cons] at ih
    exact (ih.mono (by omega) (by omega)).map
  | case6 start c rest _ _ ih =>
    rw [List.length_cons]
    exact (ih.mono (by omega) (by omega)).map

/-- A property lies in the template. -/
theorem place_of_mem_pieces {start : Nat} {template : Text} {found : List Piece} {hole : Property}
    (h : pieces start template = .ok found) (hmem : .property hole ∈ found) :
    start ≤ hole.start ∧ hole.start + hole.length ≤ start + template.length := by
  have htail : ∀ {c : CodePoint} {later : List Piece},
      Piece.property hole ∈ Piece.char c :: later → Piece.property hole ∈ later := by
    intro c later hlater
    rcases List.mem_cons.mp hlater with hfirst | hrest
    · cases hfirst
    · exact hrest
  fun_induction pieces start template generalizing found with
  | case1 =>
    cases h
    cases hmem
  | case2 start rest hdouble ih =>
    obtain ⟨tail, rfl⟩ := List.head?_eq_some_iff.mp hdouble
    obtain ⟨later, hlater, rfl⟩ := Outcome.map_eq_ok h
    have hplace := ih hlater (htail hmem)
    rw [List.tail_cons] at hplace
    rw [List.length_cons, List.length_cons]
    omega
  | case3 => cases h
  | case4 start rest _ body tail hcut ih =>
    have hlength := length_of_cut? hcut
    obtain ⟨first, hfirst, h⟩ := Outcome.bind_eq_ok h
    obtain ⟨later, hlater, h⟩ := Outcome.bind_eq_ok h
    cases h
    have hwidth := place_of_readProperty hfirst
    rw [List.length_cons]
    rcases List.mem_cons.mp hmem with hhole | hrest
    · cases hhole
      omega
    · have hplace := ih first hlater hrest
      omega
  | case5 start c rest _ hdouble ih =>
    obtain ⟨tail, rfl⟩ := List.head?_eq_some_iff.mp hdouble.2
    obtain ⟨later, hlater, rfl⟩ := Outcome.map_eq_ok h
    have hplace := ih hlater (htail hmem)
    rw [List.tail_cons] at hplace
    rw [List.length_cons, List.length_cons]
    omega
  | case6 start c rest _ _ ih =>
    obtain ⟨later, hlater, rfl⟩ := Outcome.map_eq_ok h
    have hplace := ih hlater (htail hmem)
    rw [List.length_cons]
    omega

/-- Gathering text leaves the properties as they are. -/
theorem mem_properties_gather {found : List Piece} {hole : Property} :
    hole ∈ properties (gather found) ↔ .property hole ∈ found := by
  induction found with
  | nil => exact ⟨nofun, nofun⟩
  | cons piece rest ih =>
    cases piece with
    | property first =>
      have hcons : properties (gather (.property first :: rest)) =
          first :: properties (gather rest) := rfl
      rw [hcons, List.mem_cons, List.mem_cons, ← ih, Piece.property.injEq]
    | char c =>
      have hskip : (.property hole ∈ Piece.char c :: rest) ↔ .property hole ∈ rest := by
        rw [List.mem_cons]
        exact or_iff_right nofun
      rw [hskip, ← ih, gather]
      split
      · next content more hgather =>
        rw [hgather]
        rfl
      · rfl

/-- A fault of a template is not empty and lies in it. -/
theorem fault_bounds {template : Text} {fault : Fault}
    (h : parse template = .error (.malformed fault)) :
    1 ≤ fault.length ∧ fault.start + fault.length ≤ template.length := by
  have hcontained := (contained_pieces 0 template).map fault h
  omega

/-- A property of a template lies in it. -/
theorem property_bounds {template : Text} {segments : List Segment} {hole : Property}
    (h : parse template = .ok segments) (hmem : hole ∈ properties segments) :
    hole.start + hole.length ≤ template.length := by
  obtain ⟨found, hfound, rfl⟩ := Outcome.map_eq_ok h
  have hplace := place_of_mem_pieces hfound (mem_properties_gather.mp hmem)
  omega

end TemplateLint.Template
