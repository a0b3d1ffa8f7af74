import TemplateLint.Proofs.Source.Balance
import TemplateLint.Proofs.Source.Masked

/-!
# Arguments in their frames

Between its separators an argument stands in a frame of blanks and comments. Main statements:
the regions of an argument list are arguments in frames, and every argument of the list can
stand in every frame of it.
-/

namespace TemplateLint.Source

/-- What stands around an argument, up to the separators or parentheses. -/
structure Frame where
  /-- What stands in front of the argument. -/
  lead : List Region
  /-- What stands behind the argument. -/
  trail : List Region

/-- The regions of an argument in its frame. -/
def Frame.fill (frame : Frame) (arg : List Region) : List Region :=
  frame.lead ++ (arg ++ frame.trail)

/-- A frame of blanks and comments that fit in front of everything. -/
structure Frame.IsFree (frame : Frame) : Prop where
  /-- Blanks and comments in front. -/
  lead_blank : ∀ region ∈ frame.lead, region.isBlank = true
  /-- Blanks and comments behind. -/
  trail_blank : ∀ region ∈ frame.trail, region.isBlank = true
  /-- An argument does not change how the front is parsed. -/
  lead_parsed : ∀ next, Parsed frame.lead next
  /-- A separator does not change how the back is parsed. -/
  trail_parsed : ∀ next, Parsed frame.trail next

/-- The regions of an argument: the first and the last one are not blank. -/
structure IsTrimmed (arg : List Region) : Prop where
  /-- The regions fit in front of each other. -/
  parsed : ∃ next, Parsed arg next
  /-- The first region is not blank. -/
  head : ∀ region, arg.head? = some region → region.isBlank = false
  /-- The last region is not blank. -/
  last : ∀ region, arg.getLast? = some region → region.isBlank = false

/-- The regions of an argument that is found again when the source is masked. -/
structure IsReadable (arg : List Region) : Prop extends IsTrimmed arg where
  /-- Every literal is closed. -/
  closed : ∀ region ∈ arg, region.IsClosed
  /-- There is no comma outside of its brackets. -/
  uncut : Uncut (arg.flatMap Region.masked)

/-- The regions of an argument that can stand in every frame. -/
structure IsMovable (arg : List Region) : Prop extends IsReadable arg where
  /-- The last region does not start a comment with what follows. -/
  slash : arg.getLast? ≠ some (.code '/')

/-- A list has a front and a back of items that a test accepts, and a middle that starts and
ends with others. -/
theorem exists_trimmed {α : Type} (p : α → Bool) (items : List α) :
    ∃ lead middle trail, items = lead ++ (middle ++ trail) ∧ (∀ a ∈ lead, p a = true) ∧
      (∀ a ∈ trail, p a = true) ∧ (∀ a, middle.head? = some a → p a = false) ∧
      (∀ a, middle.getLast? = some a → p a = false) ∧ (middle = [] → trail = []) := by
  induction items with
  | nil => exact ⟨[], [], [], rfl, nofun, nofun, nofun, nofun, fun _ => rfl⟩
  | cons item items ih =>
    obtain ⟨lead, middle, trail, rfl, hlead, htrail, hhead, hlast, hempty⟩ := ih
    cases hitem : p item with
    | true =>
      exact ⟨item :: lead, middle, trail, rfl, List.forall_mem_cons.mpr ⟨hitem, hlead⟩, htrail,
        hhead, hlast, hempty⟩
    | false =>
      have hfirst : ∀ a, some item = some a → p a = false := fun a ha => Option.some.inj ha ▸ hitem
      cases middle with
      | nil =>
        cases hempty rfl
        refine ⟨[], [item], lead, ?_, nofun, hlead, hfirst, hfirst, nofun⟩
        rw [List.append_nil, List.append_nil]
        rfl
      | cons second middle =>
        refine ⟨[], item :: lead ++ second :: middle, trail, ?_, nofun, htrail, hfirst, ?_, nofun⟩
        · rw [List.nil_append, List.append_assoc, List.cons_append, List.cons_append]
        · intro a ha
          rw [List.getLast?_append, List.getLast?_cons, Option.some_or] at ha
          rw [List.getLast?_cons] at hlast
          exact hlast a ha

namespace Frame

variable {frame : Frame} {arg : List Region} {next : Text} {d : CodePoint}

/-- The regions between two separators are an argument in a frame. -/
theorem exists_fill {slot : List Region} (h : Parsed slot (d :: next)) (hd : d ≠ '\n') :
    ∃ frame arg, slot = fill frame arg ∧ frame.IsFree ∧ IsTrimmed arg ∧
      (arg = [] → frame.trail = []) := by
  obtain ⟨lead, arg, trail, rfl, hlead, htrail, hhead, hlast, hempty⟩ :=
    exists_trimmed Region.isBlank slot
  obtain ⟨hplead, hrest⟩ := parsed_append.mp h
  obtain ⟨hparg, hptrail⟩ := parsed_append.mp hrest
  refine ⟨⟨lead, trail⟩, arg, rfl, ⟨hlead, htrail, ?_, hptrail.of_isBlank hd htrail⟩,
    ⟨⟨_, hparg⟩, hhead, hlast⟩, hempty⟩
  cases arg with
  | nil =>
    cases hempty rfl
    exact hplead.of_isBlank hd hlead
  | cons region arg =>
    obtain ⟨first, rest, _, hsource, _, hfirst⟩ := hparg.1.exists_first (hhead region rfl)
    rw [List.cons_append, List.flatMap_cons, hsource] at hplead
    refine hplead.of_isBlank ?_ hlead
    rintro rfl
    cases hfirst

/-- An argument that can be moved fits into every frame, in front of everything that can
follow it. -/
theorem parsed_fill (hframe : frame.IsFree) (harg : IsMovable arg) (hd : isMark d = false)
    (next : Text) : Parsed (frame.fill arg) (d :: next) := by
  refine parsed_append.mpr ⟨hframe.lead_parsed _, parsed_append.mpr ⟨?_, hframe.trail_parsed _⟩⟩
  obtain ⟨first, rest, hfollow, hfirst⟩ :=
    (hframe.trail_parsed (d :: next)).exists_not_mark hd hframe.trail_blank
  obtain ⟨behind, hparsed⟩ := harg.parsed
  rw [hfollow]
  refine hparsed.of_isClosed harg.closed (fun region hregion => ⟨harg.last region hregion, ?_⟩)
    hfirst rest
  rintro rfl
  exact harg.slash hregion

end Frame

/-- Parts of a source with a comma in front of each. -/
def commaSlots (slots : List (List Region)) : List Region :=
  slots.flatMap fun slot => .code ',' :: slot

/-- The first part comes behind its comma. -/
theorem commaSlots_cons (slot : List Region) (slots : List (List Region)) :
    commaSlots (slot :: slots) = .code ',' :: (slot ++ commaSlots slots) := rfl

/-- Arguments in the frames in which they are read. -/
structure Framed (frames : List Frame) (args : List (List Region)) : Prop where
  /-- Every argument has a frame. -/
  length_eq : frames.length = args.length
  /-- The frames are blank. -/
  free : ∀ frame ∈ frames, frame.IsFree
  /-- The arguments start and end with something that is not blank. -/
  trimmed : ∀ arg ∈ args, IsTrimmed arg
  /-- Where there is no argument, all blanks are in front of it. -/
  trail_nil : ∀ pair ∈ frames.zip args, pair.2 = [] → pair.1.trail = []

namespace Framed

variable {frame : Frame} {frames : List Frame} {arg : List Region} {args : List (List Region)}

/-- An argument can be added at the front. -/
theorem cons (h : Framed frames args) (hframe : frame.IsFree) (harg : IsTrimmed arg)
    (hempty : arg = [] → frame.trail = []) : Framed (frame :: frames) (arg :: args) where
  length_eq := by rw [List.length_cons, List.length_cons, h.length_eq]
  free := List.forall_mem_cons.mpr ⟨hframe, h.free⟩
  trimmed := List.forall_mem_cons.mpr ⟨harg, h.trimmed⟩
  trail_nil := List.forall_mem_cons.mpr ⟨hempty, h.trail_nil⟩

/-- The arguments behind the first one are read in their frames. -/
theorem tail (h : Framed (frame :: frames) (arg :: args)) : Framed frames args where
  length_eq := Nat.succ.inj h.length_eq
  free := (List.forall_mem_cons.mp h.free).2
  trimmed := (List.forall_mem_cons.mp h.trimmed).2
  trail_nil := (List.forall_mem_cons.mp h.trail_nil).2

end Framed

section Lists

variable {d : CodePoint} {next : Text}

/-- What follows a slot starts with a comma, or with what follows all slots. -/
theorem exists_head_slots (slots : List (List Region)) (d : CodePoint) (next : Text) :
    ∃ first rest, (commaSlots slots).flatMap Region.source ++ d :: next =
      first :: rest ∧ (first = d ∨ first = ',') := by
  cases slots with
  | nil => exact ⟨d, next, rfl, .inl rfl⟩
  | cons slot slots => exact ⟨',', _, rfl, .inr rfl⟩

/-- The regions between separators are arguments in frames. -/
theorem exists_frames {slots : List (List Region)}
    (h : Parsed (commaSlots slots) (d :: next)) (hd : d ≠ '\n') :
    ∃ frames args, slots = List.zipWith Frame.fill frames args ∧ Framed frames args := by
  induction slots with
  | nil => exact ⟨[], [], rfl, rfl, nofun, nofun, nofun⟩
  | cons slot slots ih =>
    rw [commaSlots_cons, Parsed, parsed_append] at h
    obtain ⟨_, hslot, hslots⟩ := h
    obtain ⟨frames, args, hfill, hframed⟩ := ih hslots
    obtain ⟨first, rest, hfollow, hfirst⟩ := exists_head_slots slots d next
    rw [hfollow] at hslot
    have hline : first ≠ '\n' := by
      rcases hfirst with rfl | rfl
      · exact hd
      · decide
    obtain ⟨frame, arg, rfl, hframe, harg, hempty⟩ := Frame.exists_fill hslot hline
    exact ⟨frame :: frames, arg :: args, congrArg _ hfill, hframed.cons hframe harg hempty⟩

/-- An argument that can be moved fits into every frame of a list. -/
theorem parsed_fill_slots {frame : Frame} {arg : List Region} (hframe : frame.IsFree)
    (harg : IsMovable arg) (slots : List (List Region)) (hd : isMark d = false) :
    Parsed (frame.fill arg) ((commaSlots slots).flatMap Region.source ++ d :: next) := by
  obtain ⟨first, rest, hfollow, hfirst⟩ := exists_head_slots slots d next
  have hmark : isMark first = false := by
    rcases hfirst with rfl | rfl
    · exact hd
    · rfl
  rw [hfollow]
  exact Frame.parsed_fill hframe harg hmark rest

/-- Arguments that can be moved fit into all frames. -/
theorem parsed_commaSlots {frames : List Frame} {args : List (List Region)}
    (hframes : ∀ frame ∈ frames, frame.IsFree) (hargs : ∀ arg ∈ args, IsMovable arg)
    (hd : isMark d = false) :
    Parsed (commaSlots (List.zipWith Frame.fill frames args)) (d :: next) := by
  induction frames generalizing args with
  | nil => trivial
  | cons frame frames ih =>
    cases args with
    | nil => trivial
    | cons arg args =>
      obtain ⟨hframe, hframes⟩ := List.forall_mem_cons.mp hframes
      obtain ⟨harg, hargs⟩ := List.forall_mem_cons.mp hargs
      rw [List.zipWith_cons_cons, commaSlots_cons]
      refine ⟨Fits.code (by decide) rfl rfl _, parsed_append.mpr ⟨?_, ih hframes hargs⟩⟩
      exact parsed_fill_slots hframe harg _ hd

/-- The commas of a masked argument list cut its regions. -/
theorem exists_slots {regions : List Region} {first : Text} {later : List Text}
    (h : Parsed regions next) (hcut : regions.flatMap Region.masked = first ++ commaTail later) :
    ∃ slot slots, regions = slot ++ commaSlots slots ∧
      slot.flatMap Region.masked = first ∧
      slots.map (fun slot => slot.flatMap Region.masked) = later := by
  induction later generalizing regions first with
  | nil => exact ⟨regions, [], (List.append_nil _).symm, hcut.trans (List.append_nil _), rfl⟩
  | cons second later ih =>
    obtain ⟨slot, after, rfl, hslot, hafter⟩ := h.exists_code hcut rfl rfl rfl
    obtain ⟨slot', slots, rfl, hslot', hslots⟩ := ih (parsed_append.mp h).2.2 hafter
    refine ⟨slot, slot' :: slots, rfl, hslot, ?_⟩
    rw [List.map_cons, hslot', hslots]

end Lists

end TemplateLint.Source
