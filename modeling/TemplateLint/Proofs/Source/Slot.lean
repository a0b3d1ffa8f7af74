import TemplateLint.Proofs.Source.Frame
import TemplateLint.Proofs.Source.Reordered

/-!
# Ranges of framed arguments

Trimming the masked text of an argument in its frame takes the frame away, so the ranges of
an argument list are those of its arguments, and what stands between them are the frames and
the commas. Main statements: the ranges of an argument list hold the arguments; its
separators depend on the frames only; and the list is its arguments with these separators
between them, in whatever order the arguments come.
-/

namespace TemplateLint.Source

/-- Trimming takes away the blanks around a part that does not start or end with one; if the
part is empty, nothing is left behind all blanks. -/
theorem trimmedRange_append {lead arg trail : Text} (hlead : ∀ c ∈ lead, c.isBlank = true)
    (htrail : ∀ c ∈ trail, c.isBlank = true)
    (hhead : ∀ c, arg.head? = some c → c.isBlank = false)
    (hlast : ∀ c, arg.getLast? = some c → c.isBlank = false) (start : Nat) :
    trimmedRange start (lead ++ (arg ++ trail)) =
      if arg = [] then
        ⟨start + lead.length + trail.length, start + lead.length + trail.length⟩
      else ⟨start + lead.length, start + lead.length + arg.length⟩ := by
  have hleft : Text.trimLeft (lead ++ (arg ++ trail)) = if arg = [] then [] else arg ++ trail := by
    rw [Text.trimLeft, List.dropWhile_append_of_pos hlead]
    cases arg with
    | nil =>
      rw [if_pos rfl, List.nil_append, ← List.append_nil trail,
        List.dropWhile_append_of_pos htrail, List.dropWhile_nil]
    | cons c arg =>
      rw [if_neg (List.cons_ne_nil _ _), List.cons_append,
        List.dropWhile_cons_of_neg (by rw [hhead c rfl]; exact Bool.false_ne_true)]
  have hright : Text.trimRight (arg ++ trail) = arg := by
    have hback : ∀ c ∈ trail.reverse, c.isBlank = true :=
      fun c hc => htrail c (List.mem_reverse.mp hc)
    rw [Text.trimRight, List.reverse_append, List.dropWhile_append_of_pos hback]
    cases hreverse : arg.reverse with
    | nil =>
      rw [List.reverse_eq_nil_iff.mp hreverse]
      rfl
    | cons c rest =>
      have hc : c.isBlank = false := by
        refine hlast c ?_
        rw [← List.head?_reverse, hreverse, List.head?_cons]
      rw [List.dropWhile_cons_of_neg (by rw [hc]; exact Bool.false_ne_true), ← hreverse,
        List.reverse_reverse]
  rw [trimmedRange, Text.trim, hleft]
  split
  · next hempty =>
    subst hempty
    simp [Text.trimRight, Nat.add_assoc]
  · rw [hright]
    simp only [List.length_append]
    congr 1 <;> omega

/-- Masking keeps the length of regions. -/
theorem length_flatMap_masked (regions : List Region) :
    (regions.flatMap Region.masked).length = (regions.flatMap Region.source).length := by
  induction regions with
  | nil => rfl
  | cons region regions ih =>
    rw [List.flatMap_cons, List.flatMap_cons, List.length_append, List.length_append, ih,
      Region.length_masked]

namespace IsTrimmed

variable {arg : List Region}

/-- Only an empty argument is masked to nothing. -/
theorem masked_eq_nil_iff (h : IsTrimmed arg) : arg.flatMap Region.masked = [] ↔ arg = [] := by
  cases arg with
  | nil => exact ⟨fun _ => rfl, fun _ => rfl⟩
  | cons region arg =>
    obtain ⟨next, hparsed⟩ := h.parsed
    obtain ⟨first, _, rest, _, hmasked, _⟩ := hparsed.1.exists_first (h.head region rfl)
    rw [List.flatMap_cons, hmasked, List.cons_append]
    exact ⟨nofun, nofun⟩

/-- A masked argument does not start with a blank. -/
theorem head_masked (h : IsTrimmed arg) {c : CodePoint}
    (hc : (arg.flatMap Region.masked).head? = some c) : c.isBlank = false := by
  cases arg with
  | nil => cases hc
  | cons region arg =>
    obtain ⟨next, hparsed⟩ := h.parsed
    obtain ⟨first, _, rest, _, hmasked, hfirst⟩ := hparsed.1.exists_first (h.head region rfl)
    rw [List.flatMap_cons, hmasked] at hc
    cases hc
    exact hfirst

end IsTrimmed

/-- The masked regions end as the last region does. -/
theorem getLast?_flatMap_masked {region : Region} {last : CodePoint}
    (hlast : region.masked.getLast? = some last) (front : List Region) :
    ((front ++ [region]).flatMap Region.masked).getLast? = some last := by
  rw [List.flatMap_append, List.flatMap_singleton, List.getLast?_append, hlast, Option.some_or]

/-- A masked argument with closed literals does not end with a blank. -/
theorem IsReadable.last_masked {arg : List Region} (h : IsReadable arg) {c : CodePoint}
    (hc : (arg.flatMap Region.masked).getLast? = some c) : c.isBlank = false := by
  cases hlast : arg.getLast? with
  | none =>
    rw [List.getLast?_eq_none_iff.mp hlast] at hc
    cases hc
  | some region =>
    obtain ⟨front, rfl⟩ := List.getLast?_eq_some_iff.mp hlast
    obtain ⟨last, hmasked, hblank⟩ := Fits.exists_last
      (h.closed region (List.mem_append_right _ List.mem_cons_self)) (h.last region hlast)
    rw [getLast?_flatMap_masked hmasked] at hc
    cases hc
    exact hblank

namespace Frame

variable {frame : Frame} {arg : List Region}

/-- The trimmed range of an argument in its frame. -/
theorem trimmedRange_fill (hframe : frame.IsFree) (harg : IsReadable arg) (start : Nat) :
    trimmedRange start ((frame.fill arg).flatMap Region.masked) =
      if arg = [] then
        ⟨start + (frame.lead.flatMap Region.source).length +
            (frame.trail.flatMap Region.source).length,
          start + (frame.lead.flatMap Region.source).length +
            (frame.trail.flatMap Region.source).length⟩
      else ⟨start + (frame.lead.flatMap Region.source).length,
        start + (frame.lead.flatMap Region.source).length +
          (arg.flatMap Region.source).length⟩ := by
  rw [fill, List.flatMap_append, List.flatMap_append,
    trimmedRange_append (isBlank_of_mem_flatMap_masked hframe.lead_blank)
      (isBlank_of_mem_flatMap_masked hframe.trail_blank)
      (fun c => harg.head_masked) (fun c => harg.last_masked), length_flatMap_masked,
    length_flatMap_masked, length_flatMap_masked]
  simp only [harg.masked_eq_nil_iff]

/-- The trimmed range of an argument in its frame holds the argument. -/
theorem of_trimmedRange_fill (hframe : frame.IsFree) (harg : IsReadable arg)
    (before after : Text) :
    (trimmedRange before.length ((frame.fill arg).flatMap Region.masked)).of
      (before ++ ((frame.fill arg).flatMap Region.source ++ after)) =
        arg.flatMap Region.source := by
  rw [trimmedRange_fill hframe harg]
  split
  · next hempty =>
    rw [Range.of, Text.slice, Nat.sub_self, List.take_zero, hempty]
    rfl
  · have hparts : before ++ ((frame.fill arg).flatMap Region.source ++ after) =
        (before ++ frame.lead.flatMap Region.source) ++ (arg.flatMap Region.source ++
          (frame.trail.flatMap Region.source ++ after)) := by
      simp only [fill, List.flatMap_append, List.append_assoc]
    rw [Range.of, hparts, ← List.length_append]
    exact Text.slice_append_append _ _ _

/-- If the frame of an empty argument is in front of it, the trimmed range is where the
argument is read. -/
theorem trimmedRange_fill_of_trail_nil (hframe : frame.IsFree) (harg : IsReadable arg)
    (hempty : arg = [] → frame.trail = []) (start : Nat) :
    trimmedRange start ((frame.fill arg).flatMap Region.masked) =
      ⟨start + (frame.lead.flatMap Region.source).length,
        start + (frame.lead.flatMap Region.source).length +
          (arg.flatMap Region.source).length⟩ := by
  rw [trimmedRange_fill hframe harg]
  split
  · next hnil =>
    rw [hempty hnil, hnil]
    rfl
  · rfl

end Frame

/-- The masked text of every part. -/
def maskedParts (slots : List (List Region)) : List Text :=
  slots.map fun slot => slot.flatMap Region.masked

/-- An argument without outer commas has none in its frame either. -/
theorem Frame.uncut_fill {frame : Frame} {arg : List Region} (hframe : frame.IsFree)
    (harg : IsReadable arg) : Uncut ((frame.fill arg).flatMap Region.masked) := by
  rw [fill, List.flatMap_append, List.flatMap_append]
  exact (Uncut.of_blank (isBlank_of_mem_flatMap_masked hframe.lead_blank)).append
    (harg.uncut.append (Uncut.of_blank (isBlank_of_mem_flatMap_masked hframe.trail_blank)))

/-- Arguments without outer commas have none in their frames either. -/
theorem uncut_of_mem_maskedParts {frames : List Frame} {args : List (List Region)}
    (hframes : ∀ frame ∈ frames, frame.IsFree) (hargs : ∀ arg ∈ args, IsReadable arg) {part : Text}
    (hpart : part ∈ maskedParts (List.zipWith Frame.fill frames args)) : Uncut part := by
  obtain ⟨slot, hslot, rfl⟩ := List.mem_map.mp hpart
  rw [← List.map_uncurry_zip_eq_zipWith] at hslot
  obtain ⟨⟨frame, arg⟩, hpair, rfl⟩ := List.mem_map.mp hslot
  obtain ⟨hframe, harg⟩ := List.of_mem_zip hpair
  exact Frame.uncut_fill (hframes frame hframe) (hargs arg harg)

/-- The regions of the arguments are among those of their list. -/
theorem mem_commaSlots {frames : List Frame} {args : List (List Region)}
    (hlength : frames.length = args.length) {arg : List Region} (harg : arg ∈ args)
    {region : Region} (hregion : region ∈ arg) :
    region ∈ commaSlots (List.zipWith Frame.fill frames args) := by
  induction frames generalizing args with
  | nil =>
    cases List.length_eq_zero_iff.mp hlength.symm
    cases harg
  | cons frame frames ih =>
    cases args with
    | nil => cases harg
    | cons first args =>
      rw [List.zipWith_cons_cons, commaSlots_cons]
      refine List.mem_cons_of_mem _ (List.mem_append.mpr ?_)
      rcases List.mem_cons.mp harg with rfl | harg
      · exact .inl (List.mem_append_right _ (List.mem_append_left _ hregion))
      · exact .inr (ih (Nat.succ.inj hlength) harg)

/-- Without the blanks of its frame an argument is still without outer commas. -/
theorem Frame.uncut_of_fill {frame : Frame} {arg : List Region} (hframe : frame.IsFree)
    (h : Uncut ((frame.fill arg).flatMap Region.masked)) : Uncut (arg.flatMap Region.masked) := by
  rw [fill, List.flatMap_append, List.flatMap_append] at h
  exact (h.of_blank_append (isBlank_of_mem_flatMap_masked hframe.lead_blank)).of_append_blank
    (isBlank_of_mem_flatMap_masked hframe.trail_blank)

/-- Without the blanks of their frames arguments are still without outer commas. -/
theorem Framed.uncut {frames : List Frame} {args : List (List Region)}
    (hframed : Framed frames args)
    (h : ∀ part ∈ maskedParts (List.zipWith Frame.fill frames args), Uncut part)
    {arg : List Region} (harg : arg ∈ args) : Uncut (arg.flatMap Region.masked) := by
  induction frames generalizing args with
  | nil =>
    cases List.length_eq_zero_iff.mp hframed.length_eq.symm
    cases harg
  | cons frame frames ih =>
    cases args with
    | nil => cases harg
    | cons first args =>
      obtain ⟨hfirst, hlater⟩ := List.forall_mem_cons.mp h
      rcases List.mem_cons.mp harg with rfl | harg
      · exact Frame.uncut_of_fill (hframed.free frame List.mem_cons_self) hfirst
      · exact ih hframed.tail hlater harg

/-- Parts with a comma in front of each are masked part by part. -/
theorem flatMap_masked_commaSlots (slots : List (List Region)) :
    (commaSlots slots).flatMap Region.masked = commaTail (maskedParts slots) := by
  induction slots with
  | nil => rfl
  | cons slot slots ih =>
    rw [commaSlots_cons, List.flatMap_cons, List.flatMap_append, ih]
    rfl

/-- A part behind a text and a comma, and what follows it. -/
theorem source_commaSlots_cons (before after : Text) (slot : List Region)
    (slots : List (List Region)) :
    before ++ ((commaSlots (slot :: slots)).flatMap Region.source ++ after) =
      (before ++ [CodePoint.ofChar ',']) ++ (slot.flatMap Region.source ++
        ((commaSlots slots).flatMap Region.source ++ after)) := by
  rw [commaSlots_cons, List.flatMap_cons, List.flatMap_append]
  simp only [Region.source, List.append_assoc, List.cons_append, List.nil_append]

/-- The ranges of an argument list behind its first comma hold the arguments. -/
theorem map_of_partRanges {frames : List Frame} {args : List (List Region)}
    (hlength : frames.length = args.length) (hframes : ∀ frame ∈ frames, frame.IsFree)
    (hargs : ∀ arg ∈ args, IsReadable arg) (before after : Text) :
    (partRanges (before.length + 1) (maskedParts (List.zipWith Frame.fill frames args))).map
      (·.of (before ++ ((commaSlots (List.zipWith Frame.fill frames args)).flatMap
        Region.source ++ after))) = args.map fun arg => arg.flatMap Region.source := by
  induction frames generalizing args before with
  | nil =>
    cases List.length_eq_zero_iff.mp hlength.symm
    rfl
  | cons frame frames ih =>
    cases args with
    | nil => cases hlength
    | cons arg args =>
      obtain ⟨hframe, hframes⟩ := List.forall_mem_cons.mp hframes
      obtain ⟨harg, hargs⟩ := List.forall_mem_cons.mp hargs
      have hfirst := Frame.of_trimmedRange_fill hframe harg (before ++ [CodePoint.ofChar ','])
        ((commaSlots (List.zipWith Frame.fill frames args)).flatMap Region.source ++ after)
      have hlater := ih (Nat.succ.inj hlength) hframes hargs
        (before ++ [CodePoint.ofChar ','] ++ (frame.fill arg).flatMap Region.source)
      rw [List.append_assoc (before ++ [CodePoint.ofChar ','])] at hlater
      rw [List.zipWith_cons_cons, source_commaSlots_cons, maskedParts, List.map_cons, partRanges,
        List.map_cons, List.map_cons, length_flatMap_masked, ← hlater, ← hfirst]
      simp only [List.length_append, List.length_singleton]
      rfl

/-- What stands between the arguments of a list: the back of a frame, a comma and the front
of the next frame. -/
def gaps (text : Region → Text) (trail : List Region) : List Frame → List Text
  | [] => []
  | frame :: frames =>
    (trail.flatMap text ++ CodePoint.ofChar ',' :: frame.lead.flatMap text) ::
      gaps text frame.trail frames

/-- The back of the last frame, or what stands in its place if there are no frames. -/
def lastTrail (trail : List Region) : List Frame → List Region
  | [] => trail
  | frame :: frames => lastTrail frame.trail frames

/-- The texts between the ranges of an argument list are what stands between the arguments. -/
theorem separators_partRanges {frames : List Frame} {args : List (List Region)}
    (hframed : Framed frames args) (hargs : ∀ arg ∈ args, IsReadable arg)
    {t before after : Text} {trail : List Region} {range : Range} {start : Nat}
    (ht : t = before ++ (trail.flatMap Region.source ++
      ((commaSlots (List.zipWith Frame.fill frames args)).flatMap Region.source ++ after)))
    (hrange : range.stop = before.length)
    (hstart : start = before.length + (trail.flatMap Region.source).length + 1) :
    separators t (range :: partRanges start (maskedParts (List.zipWith Frame.fill frames args))) =
      gaps Region.source trail frames := by
  induction frames generalizing args before trail range start with
  | nil =>
    cases List.length_eq_zero_iff.mp hframed.length_eq.symm
    rfl
  | cons frame frames ih =>
    cases args with
    | nil => cases hframed.length_eq
    | cons arg args =>
      obtain ⟨hframe, _⟩ := List.forall_mem_cons.mp hframed.free
      obtain ⟨harg, hargs⟩ := List.forall_mem_cons.mp hargs
      obtain ⟨hempty, _⟩ := List.forall_mem_cons.mp hframed.trail_nil
      have hlater : t = (before ++ (trail.flatMap Region.source ++ CodePoint.ofChar ',' ::
          (frame.lead.flatMap Region.source ++ arg.flatMap Region.source))) ++
          (frame.trail.flatMap Region.source ++
            ((commaSlots (List.zipWith Frame.fill frames args)).flatMap Region.source ++
              after)) := by
        rw [ht, List.zipWith_cons_cons, commaSlots_cons, List.flatMap_cons, Frame.fill]
        simp only [Region.source, List.flatMap_append, List.append_assoc, List.cons_append,
          List.nil_append]
      have hgap : t.slice before.length (start + (frame.lead.flatMap Region.source).length) =
          trail.flatMap Region.source ++
            CodePoint.ofChar ',' :: frame.lead.flatMap Region.source := by
        have hslice := Text.slice_append_append before (trail.flatMap Region.source ++
          CodePoint.ofChar ',' :: frame.lead.flatMap Region.source) (arg.flatMap Region.source ++
            (frame.trail.flatMap Region.source ++
              ((commaSlots (List.zipWith Frame.fill frames args)).flatMap Region.source ++
                after)))
        rw [← hslice, hlater]
        congr 1
        · simp only [List.append_assoc, List.cons_append]
        · simp only [hstart, List.length_append, List.length_cons]
          omega
      rw [List.zipWith_cons_cons, maskedParts, List.map_cons, partRanges,
        Frame.trimmedRange_fill_of_trail_nil hframe harg hempty, separators, gaps, hrange, hgap]
      refine congrArg _ (ih hframed.tail hargs hlater ?_ ?_)
      · simp only [hstart, List.length_append, List.length_cons]
        omega
      · simp only [hstart, length_flatMap_masked, Frame.fill, List.flatMap_append,
          List.length_append, List.length_cons]
        omega

/-- An argument list is its arguments with what stands between them, in front of the back of
the last frame. -/
theorem flatMap_commaSlots {text : Region → Text}
    (hcomma : text (.code ',') = [CodePoint.ofChar ',']) {frames : List Frame}
    {args : List (List Region)} (hlength : frames.length = args.length)
    (arg trail : List Region) :
    arg.flatMap text ++ (trail.flatMap text ++
      (commaSlots (List.zipWith Frame.fill frames args)).flatMap text) =
      interleave (arg.flatMap text :: args.map fun arg => arg.flatMap text)
        (gaps text trail frames) ++
        (lastTrail trail frames).flatMap text := by
  induction frames generalizing args arg trail with
  | nil =>
    cases List.length_eq_zero_iff.mp hlength.symm
    rw [List.map_nil, interleave_singleton]
    exact congrArg _ (List.append_nil _)
  | cons frame frames ih =>
    cases args with
    | nil => cases hlength
    | cons second args =>
      have hlater := ih (Nat.succ.inj hlength) second frame.trail
      rw [List.map_cons, gaps, interleave_cons_cons, List.append_assoc, lastTrail, ← hlater,
        List.zipWith_cons_cons, commaSlots_cons, List.flatMap_cons, hcomma, List.flatMap_append,
        Frame.fill]
      simp only [List.flatMap_append, List.append_assoc, List.cons_append, List.nil_append]

end TemplateLint.Source
