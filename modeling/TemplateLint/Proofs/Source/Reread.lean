import TemplateLint.Proofs.Source.Head
import TemplateLint.Proofs.Source.Slot

/-!
# Reading a call again

A source with a call is laid out as what stands in front of the parentheses, the arguments in
their frames, and what stands behind. Whatever arguments of the call are put into the frames,
the source is cut into the same regions again. Main statement: after an argument has been
moved, the call is read with the same parentheses and the moved arguments, and the rest of
the masked source is as before.
-/

namespace TemplateLint.Source

/-- Other arguments in the same order of separators have the same length. -/
theorem length_interleave_of_perm {args args' seps : List Text} (h : args'.Perm args)
    (hlength : args.length = seps.length + 1) :
    (interleave args' seps).length = (interleave args seps).length := by
  have hlength' : args'.length = seps.length + 1 := h.length_eq.trans hlength
  rw [(interleave_perm hlength').length_eq, (interleave_perm hlength).length_eq,
    List.length_append, List.length_append, h.flatten.length_eq]

/-- A part of a text that is replaced by one of the same length leaves the rest in place. -/
theorem getElem?_append_of_outside {front middle middle' back : Text}
    (hlength : middle'.length = middle.length) {offset : Nat}
    (hout : offset < front.length ∨ front.length + middle.length ≤ offset) :
    (front ++ (middle' ++ back))[offset]? = (front ++ (middle ++ back))[offset]? := by
  rcases hout with hout | hout
  · rw [List.getElem?_append_left hout, List.getElem?_append_left hout]
  · rw [List.getElem?_append_right (by omega), List.getElem?_append_right (by omega),
      List.getElem?_append_right (by omega), List.getElem?_append_right (by omega), hlength]

/-- There is one gap for every frame but the first one. -/
theorem length_gaps (text : Region → Text) (trail : List Region) (frames : List Frame) :
    (gaps text trail frames).length = frames.length := by
  induction frames generalizing trail with
  | nil => rfl
  | cons frame frames ih => rw [gaps, List.length_cons, List.length_cons, ih]

/-- What stands around the arguments of a call in a source. -/
structure Layout where
  /-- What stands in front of the opening parenthesis. -/
  before : List Region
  /-- The frame of the first argument. -/
  frame : Frame
  /-- The frames of the other arguments. -/
  frames : List Frame
  /-- What stands behind the closing parenthesis. -/
  after : List Region

namespace Layout

variable {layout : Layout} {arg : List Region} {args : List (List Region)}

/-- The argument list. -/
def list (layout : Layout) (arg : List Region) (args : List (List Region)) : List Region :=
  layout.frame.fill arg ++ commaSlots (List.zipWith Frame.fill layout.frames args)

/-- The regions of the source. -/
def fill (layout : Layout) (arg : List Region) (args : List (List Region)) : List Region :=
  layout.before ++ .code '(' :: (layout.list arg args ++ .code ')' :: layout.after)

/-- The text of the source. -/
def text (layout : Layout) (arg : List Region) (args : List (List Region)) : Text :=
  (layout.fill arg args).flatMap Region.source

/-- Offset of the opening parenthesis. -/
def openParen (layout : Layout) : Nat :=
  (layout.before.flatMap Region.source).length

/-- Offset of the closing parenthesis. -/
def closeParen (layout : Layout) (arg : List Region) (args : List (List Region)) : Nat :=
  layout.openParen + 1 + ((layout.list arg args).flatMap Region.source).length

/-- The surroundings do not depend on the arguments. -/
structure IsSound (layout : Layout) : Prop where
  /-- The regions in front fit in front of the parenthesis, whatever follows it. -/
  before_parsed : ∀ next : Text, Parsed layout.before ('(' :: next)
  /-- The frames are blank. -/
  free : ∀ frame ∈ layout.frame :: layout.frames, frame.IsFree
  /-- The regions behind fit in front of each other. -/
  after_parsed : Parsed layout.after []

/-- The arguments and their surroundings are the regions of the source. -/
def IsParsed (layout : Layout) (arg : List Region) (args : List (List Region)) : Prop :=
  regions (layout.text arg args) = layout.fill arg args

/-- Arguments that can be moved are parsed in every layout. -/
theorem isParsed (h : layout.IsSound) (hargs : ∀ arg' ∈ arg :: args, IsMovable arg') :
    layout.IsParsed arg args := by
  obtain ⟨hframe, hframes⟩ := List.forall_mem_cons.mp h.free
  obtain ⟨harg, hargs⟩ := List.forall_mem_cons.mp hargs
  have hlist : ∀ next : Text, Parsed (layout.list arg args) (')' :: next) := fun next =>
    parsed_append.mpr ⟨parsed_fill_slots hframe harg _ rfl, parsed_commaSlots hframes hargs rfl⟩
  have hparsed : Parsed (layout.fill arg args) [] :=
    parsed_append.mpr ⟨h.before_parsed _, Fits.code (by decide) rfl rfl _,
      parsed_append.mpr ⟨hlist _, Fits.code (by decide) rfl rfl _, h.after_parsed⟩⟩
  exact hparsed.regions_source_eq

/-- The masked source in its parts. -/
theorem mask_text (h : layout.IsParsed arg args) :
    mask (layout.text arg args) = layout.before.flatMap Region.masked ++
      CodePoint.ofChar '(' :: ((layout.list arg args).flatMap Region.masked ++
        CodePoint.ofChar ')' :: layout.after.flatMap Region.masked) := by
  rw [mask, h, fill, List.flatMap_append, List.flatMap_cons, List.flatMap_append,
    List.flatMap_cons]
  rfl

/-- The masked parts of an argument list. -/
def parts (layout : Layout) (arg : List Region) (args : List (List Region)) : List Text :=
  maskedParts (List.zipWith Frame.fill (layout.frame :: layout.frames) (arg :: args))

/-- A masked argument list is cut at its outer commas into its masked parts. -/
theorem commaParts_list (h : layout.IsSound) (hargs : ∀ arg' ∈ arg :: args, IsReadable arg') :
    Balanced ((layout.list arg args).flatMap Region.masked) ∧
      commaParts 0 ((layout.list arg args).flatMap Region.masked) = layout.parts arg args := by
  have huncut : ∀ part ∈ layout.parts arg args, Uncut part :=
    fun part hpart => uncut_of_mem_maskedParts h.free hargs hpart
  rw [list, List.flatMap_append, flatMap_masked_commaSlots]
  exact ⟨balanced_append_commaTail huncut, commaParts_append_commaTail huncut⟩

/-- The closing parenthesis is found behind the arguments. -/
theorem findClosing_mask (hparsed : layout.IsParsed arg args) (h : layout.IsSound)
    (hargs : ∀ arg' ∈ arg :: args, IsReadable arg') :
    findClosing (mask (layout.text arg args)) layout.openParen =
      some (layout.closeParen arg args) := by
  rw [mask_text hparsed, openParen, closeParen, openParen, ← length_flatMap_masked,
    ← length_flatMap_masked]
  exact findClosing_of_balanced rfl (commaParts_list h hargs).1

/-- The ranges between the parentheses are those of the parts, unless there is only one. -/
theorem splitTopLevel_mask (hparsed : layout.IsParsed arg args) (h : layout.IsSound)
    (hargs : ∀ arg' ∈ arg :: args, IsReadable arg') :
    splitTopLevel (mask (layout.text arg args)) (layout.openParen + 1)
      (layout.closeParen arg args) =
        match partRanges (layout.openParen + 1) (layout.parts arg args) with
        | [range] => if range.start = range.stop then [] else [range]
        | ranges => ranges := by
  have hslice := Text.slice_append_append
    (layout.before.flatMap Region.masked ++ [CodePoint.ofChar '('])
    ((layout.list arg args).flatMap Region.masked)
    (CodePoint.ofChar ')' :: layout.after.flatMap Region.masked)
  rw [List.append_assoc, List.singleton_append, ← mask_text hparsed, List.length_append,
    List.length_singleton, length_flatMap_masked, length_flatMap_masked] at hslice
  have horder : ¬ layout.closeParen arg args < layout.openParen + 1 := by
    rw [closeParen]
    omega
  rw [splitTopLevel, if_neg horder, ← (commaParts_list h hargs).2, ← hslice]
  rfl

/-- If there are several ranges between the parentheses, they are those of the parts. -/
theorem splitTopLevel_mask_of_ne_nil (hparsed : layout.IsParsed arg args) (h : layout.IsSound)
    (hargs : ∀ arg' ∈ arg :: args, IsReadable arg')
    (hlength : layout.frames.length = args.length) (hmany : args ≠ []) :
    splitTopLevel (mask (layout.text arg args)) (layout.openParen + 1)
      (layout.closeParen arg args) = partRanges (layout.openParen + 1) (layout.parts arg args) := by
  rw [splitTopLevel_mask hparsed h hargs, parts]
  cases hframes : layout.frames with
  | nil => exact absurd (List.length_eq_zero_iff.mp (hframes ▸ hlength).symm) hmany
  | cons frame frames =>
    cases args with
    | nil => exact absurd rfl hmany
    | cons second args => rfl

/-- If there are several ranges between the parentheses, there are several arguments. -/
theorem args_ne_nil (hparsed : layout.IsParsed arg args) (h : layout.IsSound)
    (hargs : ∀ arg' ∈ arg :: args, IsReadable arg')
    (hmany : 1 < (splitTopLevel (mask (layout.text arg args)) (layout.openParen + 1)
      (layout.closeParen arg args)).length) : args ≠ [] := by
  rintro rfl
  have hone : ∀ range : Range,
      ¬ 1 < (if range.start = range.stop then [] else [range]).length := by
    intro range
    split
    · exact Nat.not_lt_zero 1
    · exact Nat.lt_irrefl 1
  rw [splitTopLevel_mask hparsed h hargs, parts, List.zipWith_cons_cons,
    List.zipWith_nil_right] at hmany
  exact hone _ hmany

/-- The source in its parts. -/
theorem text_eq (layout : Layout) (arg : List Region) (args : List (List Region)) :
    layout.text arg args =
      (layout.before.flatMap Region.source ++ [CodePoint.ofChar '(']) ++
        ((layout.frame.fill arg).flatMap Region.source ++
          ((commaSlots (List.zipWith Frame.fill layout.frames args)).flatMap Region.source ++
            CodePoint.ofChar ')' :: layout.after.flatMap Region.source)) := by
  simp only [text, fill, list, Region.source, List.flatMap_append, List.flatMap_cons,
    List.append_assoc, List.cons_append, List.nil_append]

/-- The arguments are found between the parentheses. -/
theorem map_of_parts (h : layout.IsSound) (hargs : ∀ arg' ∈ arg :: args, IsReadable arg')
    (hlength : layout.frames.length = args.length) :
    (partRanges (layout.openParen + 1) (layout.parts arg args)).map
      (·.of (layout.text arg args)) = (arg :: args).map fun arg => arg.flatMap Region.source := by
  obtain ⟨hframe, hframes⟩ := List.forall_mem_cons.mp h.free
  obtain ⟨harg, hargs⟩ := List.forall_mem_cons.mp hargs
  have hfirst := Frame.of_trimmedRange_fill hframe harg
    (layout.before.flatMap Region.source ++ [CodePoint.ofChar '('])
    ((commaSlots (List.zipWith Frame.fill layout.frames args)).flatMap Region.source ++
      CodePoint.ofChar ')' :: layout.after.flatMap Region.source)
  have hlater := map_of_partRanges hlength hframes hargs
    (layout.before.flatMap Region.source ++ [CodePoint.ofChar '('] ++
      (layout.frame.fill arg).flatMap Region.source)
    (CodePoint.ofChar ')' :: layout.after.flatMap Region.source)
  rw [List.append_assoc (_ ++ _), ← text_eq] at hlater
  rw [← text_eq] at hfirst
  rw [List.map_cons, ← hfirst, ← hlater]
  simp only [List.length_append, List.length_singleton]
  rw [parts, maskedParts, List.zipWith_cons_cons, List.map_cons, partRanges, List.map_cons,
    length_flatMap_masked]
  rfl

/-- The texts between the ranges are what stands between the arguments. -/
theorem separators_parts (hframed : Framed (layout.frame :: layout.frames) (arg :: args))
    (hargs : ∀ arg' ∈ arg :: args, IsReadable arg') :
    separators (layout.text arg args)
      (partRanges (layout.openParen + 1) (layout.parts arg args)) =
      gaps Region.source layout.frame.trail layout.frames := by
  obtain ⟨hframe, _⟩ := List.forall_mem_cons.mp hframed.free
  obtain ⟨harg, hargs⟩ := List.forall_mem_cons.mp hargs
  obtain ⟨hempty, _⟩ := List.forall_mem_cons.mp hframed.trail_nil
  have htext : layout.text arg args = (layout.before.flatMap Region.source ++
      CodePoint.ofChar '(' :: (layout.frame.lead.flatMap Region.source ++
        arg.flatMap Region.source)) ++ (layout.frame.trail.flatMap Region.source ++
          ((commaSlots (List.zipWith Frame.fill layout.frames args)).flatMap Region.source ++
            CodePoint.ofChar ')' :: layout.after.flatMap Region.source)) := by
    rw [text_eq, Frame.fill]
    simp only [List.flatMap_append, List.append_assoc, List.cons_append, List.nil_append]
  rw [parts, maskedParts, List.zipWith_cons_cons, List.map_cons, partRanges,
    Frame.trimmedRange_fill_of_trail_nil hframe harg hempty]
  refine separators_partRanges hframed.tail hargs htext ?_ ?_
  · simp only [openParen, List.length_append, List.length_cons]
    omega
  · simp only [openParen, length_flatMap_masked, Frame.fill, List.flatMap_append,
      List.length_append, List.length_cons]
    omega

/-- What stands in front of the first argument. -/
def front (layout : Layout) (text : Region → Text) : Text :=
  layout.before.flatMap text ++ CodePoint.ofChar '(' :: layout.frame.lead.flatMap text

/-- What stands behind the last argument. -/
def back (layout : Layout) (text : Region → Text) : Text :=
  (lastTrail layout.frame.trail layout.frames).flatMap text ++
    CodePoint.ofChar ')' :: layout.after.flatMap text

/-- The source and the masked source consist of the arguments and what stands around them. -/
theorem flatMap_fill (layout : Layout) (arg : List Region) {text : Region → Text}
    (hcode : ∀ c, text (.code c) = [c]) (hlength : layout.frames.length = args.length) :
    (layout.fill arg args).flatMap text = layout.front text ++
      (interleave ((arg :: args).map fun arg => arg.flatMap text)
        (gaps text layout.frame.trail layout.frames) ++ layout.back text) := by
  have hlist := flatMap_commaSlots (hcode ',') hlength arg layout.frame.trail
  rw [List.map_cons, back, ← List.append_assoc (interleave _ _), ← hlist]
  simp only [fill, list, Frame.fill, front, hcode, List.flatMap_append, List.flatMap_cons,
    List.append_assoc, List.cons_append, List.nil_append]

/-- The regions of the arguments start between the parentheses. -/
theorem exists_place (hlength : layout.frames.length = args.length) {arg' : List Region}
    (harg : arg' ∈ arg :: args) {region : Region} (hregion : region ∈ arg')
    (hne : region.source ≠ []) :
    ∃ before after, layout.fill arg args = before ++ region :: after ∧
      layout.openParen < (before.flatMap Region.source).length ∧
      (before.flatMap Region.source).length < layout.closeParen arg args := by
  have hmem : region ∈ layout.list arg args := by
    rcases List.mem_cons.mp harg with rfl | harg
    · exact List.mem_append_left _ (List.mem_append_right _ (List.mem_append_left _ hregion))
    · exact List.mem_append_right _ (mem_commaSlots hlength harg hregion)
  obtain ⟨front, back, hlist⟩ := List.append_of_mem hmem
  have hcode : (Region.code '(').source.length = 1 := rfl
  refine ⟨layout.before ++ .code '(' :: front, back ++ .code ')' :: layout.after, ?_, ?_, ?_⟩
  · simp only [fill, hlist, List.append_assoc, List.cons_append]
  · simp only [openParen, hcode, List.flatMap_append, List.flatMap_cons, List.length_append]
    omega
  · have hpos := List.length_pos_iff.mpr hne
    simp only [closeParen, openParen, hlist, hcode, List.flatMap_append, List.flatMap_cons,
      List.length_append]
    omega

/-- Arguments in their frames can be read if every literal between the parentheses is closed. -/
theorem readable_of_isClosed (hframed : Framed (layout.frame :: layout.frames) (arg :: args))
    (huncut : ∀ arg' ∈ arg :: args, Uncut (arg'.flatMap Region.masked))
    (hclosed : ∀ before region after, layout.fill arg args = before ++ region :: after →
      layout.openParen < (before.flatMap Region.source).length →
      (before.flatMap Region.source).length < layout.closeParen arg args → region.IsClosed) :
    ∀ arg' ∈ arg :: args, IsReadable arg' := by
  intro arg' harg
  refine ⟨hframed.trimmed arg' harg, fun region hregion => ?_, huncut arg' harg⟩
  obtain ⟨next, hparsed⟩ := (hframed.trimmed arg' harg).parsed
  obtain ⟨behind, hfits⟩ := hparsed.fits_of_mem hregion
  obtain ⟨first, rest, hsource, _⟩ := hfits.exists_cons
  have hne : region.source ≠ [] := by
    rw [hsource]
    exact List.cons_ne_nil _ _
  obtain ⟨before, after, hplace, hafter, hbefore⟩ :=
    layout.exists_place hframed.tail.length_eq harg hregion hne
  exact hclosed before region after hplace hafter hbefore

/-- The first range starts behind what stands in front of the first argument. -/
theorem start_of_head? (hframed : Framed (layout.frame :: layout.frames) (arg :: args))
    (harg : IsReadable arg) {first : Range}
    (hfirst : (partRanges (layout.openParen + 1) (layout.parts arg args)).head? = some first) :
    first.start = (layout.front Region.source).length := by
  obtain ⟨hframe, _⟩ := List.forall_mem_cons.mp hframed.free
  obtain ⟨hempty, _⟩ := List.forall_mem_cons.mp hframed.trail_nil
  rw [parts, maskedParts, List.zipWith_cons_cons, List.map_cons, partRanges, List.head?_cons,
    Frame.trimmedRange_fill_of_trail_nil hframe harg hempty] at hfirst
  cases hfirst
  simp only [front, openParen, List.length_append, List.length_cons]
  omega

section Permuted

variable {arg' : List Region} {args' : List (List Region)}

/-- Masking keeps the length of what stands around the arguments. -/
theorem length_front_back (layout : Layout) :
    (layout.front Region.masked).length = (layout.front Region.source).length ∧
      (layout.back Region.masked).length = (layout.back Region.source).length := by
  simp only [front, back, List.length_append, List.length_cons, length_flatMap_masked, and_self]

/-- Arguments in another order take as much room. -/
theorem length_interleave_fill (text : Region → Text)
    (hlength : layout.frames.length = args.length) (hperm : (arg' :: args').Perm (arg :: args)) :
    (interleave ((arg' :: args').map fun arg => arg.flatMap text)
      (gaps text layout.frame.trail layout.frames)).length =
    (interleave ((arg :: args).map fun arg => arg.flatMap text)
      (gaps text layout.frame.trail layout.frames)).length := by
  refine length_interleave_of_perm (hperm.map _) ?_
  rw [List.length_map, List.length_cons, length_gaps, hlength]

/-- The closing parenthesis stays where it is. -/
theorem closeParen_of_perm (hlength : layout.frames.length = args.length)
    (hperm : (arg' :: args').Perm (arg :: args)) :
    layout.closeParen arg' args' = layout.closeParen arg args := by
  have hlength' : layout.frames.length = args'.length :=
    hlength.trans (Nat.succ.inj hperm.length_eq).symm
  have htext : ∀ arg args, (layout.text arg args).length =
      layout.closeParen arg args + 1 + (layout.after.flatMap Region.source).length := by
    intro arg args
    rw [text, fill, List.flatMap_append, List.flatMap_cons, List.flatMap_append,
      List.flatMap_cons, closeParen, openParen]
    simp only [Region.source, List.length_append, List.length_singleton]
    omega
  have hsame : (layout.text arg' args').length = (layout.text arg args).length := by
    rw [text, text, flatMap_fill layout arg (fun _ => rfl) hlength,
      flatMap_fill layout arg' (fun _ => rfl) hlength', List.length_append, List.length_append,
      List.length_append, List.length_append, length_interleave_fill _ hlength hperm]
  rw [htext, htext] at hsame
  omega

/-- The masked source stays as it is around the arguments. -/
theorem getElem?_mask_of_perm (hparsed : layout.IsParsed arg args)
    (hparsed' : layout.IsParsed arg' args') (hlength : layout.frames.length = args.length)
    (hperm : (arg' :: args').Perm (arg :: args)) {offset : Nat}
    (hout : offset < (layout.front Region.source).length ∨
      (layout.front Region.source).length +
        (interleave ((arg :: args).map fun arg => arg.flatMap Region.source)
          (gaps Region.source layout.frame.trail layout.frames)).length ≤ offset) :
    (mask (layout.text arg' args'))[offset]? = (mask (layout.text arg args))[offset]? := by
  have hlength' : layout.frames.length = args'.length :=
    hlength.trans (Nat.succ.inj hperm.length_eq).symm
  obtain ⟨hfront, hback⟩ := layout.length_front_back
  have hmasked :=
    flatMap_fill layout arg (fun _ => rfl : ∀ c, Region.masked (.code c) = [c]) hlength
  have hsource :=
    flatMap_fill layout arg (fun _ => rfl : ∀ c, Region.source (.code c) = [c]) hlength
  have hroom := length_flatMap_masked (layout.fill arg args)
  rw [hmasked, hsource, List.length_append, List.length_append, List.length_append,
    List.length_append] at hroom
  rw [mask, mask, hparsed, hparsed', hmasked, flatMap_fill layout arg' (fun _ => rfl) hlength']
  refine getElem?_append_of_outside (length_interleave_fill _ hlength hperm) ?_
  omega

/-- Replacing the arguments puts the new ones into the frames. -/
theorem apply_eq (hlength : layout.frames.length = args.length)
    (hlength' : layout.frames.length = args'.length) {start stop : Nat}
    (hstart : start = (layout.front Region.source).length)
    (hstop : stop = start + (interleave ((arg :: args).map fun arg => arg.flatMap Region.source)
      (gaps Region.source layout.frame.trail layout.frames)).length) :
    Edit.apply ⟨start, stop, interleave ((arg' :: args').map fun arg => arg.flatMap Region.source)
      (gaps Region.source layout.frame.trail layout.frames)⟩ (layout.text arg args) =
      layout.text arg' args' := by
  have htext := flatMap_fill layout arg (fun _ => rfl : ∀ c, Region.source (.code c) = [c]) hlength
  have htext' :=
    flatMap_fill layout arg' (fun _ => rfl : ∀ c, Region.source (.code c) = [c]) hlength'
  have hroom : stop ≤ (layout.text arg args).length := by
    rw [text, htext, List.length_append, List.length_append]
    omega
  rw [Edit.apply_eq (by omega) hroom, text, text, htext, htext', hstop, hstart, List.take_left,
    ← List.append_assoc, ← List.length_append, List.drop_left, List.append_assoc]

end Permuted

end Layout

/-- A source with a pair of matching parentheses is laid out around its arguments. -/
theorem exists_layout {text : Text} {openParen closeParen : Nat}
    (hopen : (mask text)[openParen]? = some (CodePoint.ofChar '('))
    (hclose : findClosing (mask text) openParen = some closeParen) :
    ∃ layout : Layout, ∃ arg args, regions text = layout.fill arg args ∧
      layout.openParen = openParen ∧ layout.closeParen arg args = closeParen ∧
      layout.IsSound ∧ Framed (layout.frame :: layout.frames) (arg :: args) ∧
      ∀ arg' ∈ arg :: args, Uncut (arg'.flatMap Region.masked) := by
  obtain ⟨mbefore, inner, mafter, hmask, hbefore, hinner, hbalanced⟩ :=
    exists_balanced_of_findClosing hopen rfl hclose
  obtain ⟨first, later, rfl, huncut⟩ := hbalanced.exists_parts
  have hparsed := parsed_regions text
  obtain ⟨before, rest, hregions, hmbefore, hrest⟩ := hparsed.exists_code hmask rfl rfl rfl
  rw [hregions] at hparsed
  obtain ⟨hpbefore, _, hprest⟩ := parsed_append.mp hparsed
  obtain ⟨list, after, rfl, hlist, hmafter⟩ := hprest.exists_code hrest rfl rfl rfl
  obtain ⟨hplist, _, hpafter⟩ := parsed_append.mp hprest
  obtain ⟨slot, slots, rfl, hslot, hslots⟩ := exists_slots hplist hlist
  have hcommas : Parsed (commaSlots (slot :: slots))
      (')' :: (after.flatMap Region.source ++ [])) := ⟨Fits.code (by decide) rfl rfl _, hplist⟩
  obtain ⟨frames, args, hfill, hframed⟩ := exists_frames hcommas (by decide)
  match frames, args, hfill, hframed with
  | frame :: frames, arg :: args, hfill, hframed =>
    rw [List.zipWith_cons_cons] at hfill
    obtain ⟨rfl, rfl⟩ := List.cons.inj hfill
    have hparts : maskedParts (List.zipWith Frame.fill (frame :: frames) (arg :: args)) =
        first :: later := by
      rw [maskedParts, List.zipWith_cons_cons, List.map_cons, hslot, hslots]
    refine ⟨⟨before, frame, frames, after⟩, arg, args, hregions, ?_, ?_,
      ⟨hpbefore.of_same rfl, hframed.free, hpafter⟩, hframed,
      fun arg' => hframed.uncut (hparts ▸ huncut)⟩
    · rw [Layout.openParen, ← length_flatMap_masked, hmbefore, hbefore]
    · rw [Layout.closeParen, Layout.openParen, ← length_flatMap_masked, hmbefore, hbefore,
        ← length_flatMap_masked, hinner]
      exact congrArg (openParen + 1 + List.length ·) hlist

/-- A source with a call, laid out around arguments of the call that can be moved. -/
structure LaidOut (text : Text) (scanned : ScannedCall) (layout : Layout) (arg : List Region)
    (args : List (List Region)) : Prop where
  /-- The layout is that of the source. -/
  text_eq : layout.text arg args = text
  /-- The source is cut into the regions of the layout. -/
  parsed : layout.IsParsed arg args
  /-- The surroundings do not depend on the arguments. -/
  sound : layout.IsSound
  /-- The arguments stand in their frames. -/
  framed : Framed (layout.frame :: layout.frames) (arg :: args)
  /-- The arguments can be moved. -/
  movable : ∀ arg' ∈ arg :: args, IsMovable arg'
  /-- There are several arguments. -/
  ne_nil : args ≠ []
  /-- The list starts at the opening parenthesis of the call. -/
  openParen_eq : layout.openParen = scanned.openParen
  /-- The list ends at the closing parenthesis of the call. -/
  closeParen_eq : layout.closeParen arg args = scanned.closeParen
  /-- The ranges of the call are those of the masked parts of the list. -/
  ranges_eq : scanned.ranges = partRanges (layout.openParen + 1) (layout.parts arg args)

/-- A call in which an argument is moved has several arguments. -/
theorem Flagged.one_lt_length_ranges {source : Prepared} {scanned : ScannedCall} {fix : Reorder}
    (h : Flagged source scanned fix) : 1 < scanned.ranges.length := by
  obtain ⟨shift, hbefore, _, hleft⟩ := h.exists_shift source.text
  have hcount := congrArg List.length hbefore
  have hpos := List.length_pos_iff.mpr hleft
  rw [List.length_map, Shift.before, List.length_append, List.length_append,
    List.length_cons] at hcount
  omega

/-- The source of a flagged call, whose literals are closed and whose arguments do not end with
a slash, is laid out around arguments that can be moved. -/
theorem Flagged.exists_layout {text : Text} {config : Config} {file : Option Text}
    {scanned : ScannedCall} {fix : Reorder}
    (h : Flagged (prepare text config file) scanned fix)
    (hclosed : ∀ before region after, regions text = before ++ region :: after →
      scanned.openParen < (before.flatMap Region.source).length →
      (before.flatMap Region.source).length < scanned.closeParen → region.IsClosed)
    (hslash : ∀ range ∈ scanned.ranges,
      (range.of text).getLast? ≠ some (CodePoint.ofChar '/')) :
    ∃ layout arg args, LaidOut text scanned layout arg args := by
  have hread := isRead_of_mem_scan h.mem_scan
  obtain ⟨found, hfound, hopen⟩ := hread.openParen_eq
  have hparen := getElem?_of_mem_occurrences hfound
  rw [← hopen] at hparen
  obtain ⟨layout, arg, args, hregions, hlopen, hlclose, hsound, hframed, huncut⟩ :=
    Source.exists_layout hparen hread.findClosing_eq
  have htext : layout.text arg args = text := by
    rw [Layout.text, ← hregions, regions_source]
  have hparsed : layout.IsParsed arg args := by
    rw [Layout.IsParsed, htext, hregions]
  have hlength := hframed.tail.length_eq
  rw [hregions, ← hlopen, ← hlclose] at hclosed
  have hreadable := Layout.readable_of_isClosed hframed huncut hclosed
  have hranges : scanned.ranges = splitTopLevel (mask (layout.text arg args))
      (layout.openParen + 1) (layout.closeParen arg args) := by
    rw [htext, hlopen, hlclose]
    exact hread.ranges_eq
  have hmany : args ≠ [] :=
    Layout.args_ne_nil hparsed hsound hreadable (hranges ▸ h.one_lt_length_ranges)
  rw [Layout.splitTopLevel_mask_of_ne_nil hparsed hsound hreadable hlength hmany] at hranges
  -- an argument that ends with a slash as code would be the text of a range
  have hslashes : ∀ arg' ∈ arg :: args, arg'.getLast? ≠ some (.code '/') := by
    intro arg' harg hlast
    have hargs := layout.map_of_parts hsound hreadable hlength
    rw [← hranges, htext] at hargs
    have hmem : arg'.flatMap Region.source ∈ scanned.ranges.map (·.of text) := by
      rw [hargs]
      exact List.mem_map.mpr ⟨arg', harg, rfl⟩
    obtain ⟨range, hrange, hof⟩ := List.mem_map.mp hmem
    refine hslash range hrange ?_
    obtain ⟨front, rfl⟩ := List.getLast?_eq_some_iff.mp hlast
    rw [hof, List.flatMap_append, List.flatMap_singleton, List.getLast?_append]
    rfl
  exact ⟨layout, arg, args, htext, hparsed, hsound, hframed,
    fun arg' harg => ⟨hreadable arg' harg, hslashes arg' harg⟩, hmany, hlopen, hlclose, hranges⟩

namespace LaidOut

variable {text : Text} {scanned : ScannedCall} {layout : Layout} {arg : List Region}
  {args : List (List Region)}

/-- The arguments can be read. -/
theorem readable (h : LaidOut text scanned layout arg args) :
    ∀ arg' ∈ arg :: args, IsReadable arg' :=
  fun arg' harg => (h.movable arg' harg).toIsReadable

/-- Every argument but the first one has its frame. -/
theorem length_eq (h : LaidOut text scanned layout arg args) :
    layout.frames.length = args.length :=
  h.framed.tail.length_eq

/-- The ranges of the call hold the arguments. -/
theorem map_of_ranges (h : LaidOut text scanned layout arg args) :
    scanned.ranges.map (·.of text) = (arg :: args).map fun arg => arg.flatMap Region.source := by
  rw [h.ranges_eq, ← h.text_eq]
  exact layout.map_of_parts h.sound h.readable h.length_eq

/-- What stands between the ranges is what stands between the arguments. -/
theorem separators_eq (h : LaidOut text scanned layout arg args) :
    separators text scanned.ranges = gaps Region.source layout.frame.trail layout.frames := by
  rw [h.ranges_eq, ← h.text_eq]
  exact layout.separators_parts h.framed h.readable

/-- The edit that moves an argument covers the arguments and puts them into the frames in
another order. -/
theorem exists_moved (h : LaidOut text scanned layout arg args) {config : Config}
    {file : Option Text} {fix : Reorder}
    (hflagged : Flagged (prepare text config file) scanned fix) :
    ∃ arg' args', (arg' :: args').Perm (arg :: args) ∧
      moveItem (scanned.ranges.map (·.of text)) fix.argument.toNat fix.target.toNat =
        (arg' :: args').map (fun arg => arg.flatMap Region.source) ∧
      (reorder text scanned fix).start = (layout.front Region.source).length ∧
      (reorder text scanned fix).stop = ((layout.front Region.source).length +
        (interleave ((arg :: args).map fun arg => arg.flatMap Region.source)
          (gaps Region.source layout.frame.trail layout.frames)).length : Nat) ∧
      (reorder text scanned fix).apply text = layout.text arg' args' := by
  obtain ⟨shift, first, last, hargs, rfl, _, hfirst, hlast, horder, hroom, hslice⟩ :=
    hflagged.exists_ranges
  have hbefore := h.map_of_ranges
  rw [hargs] at hbefore
  obtain ⟨permuted, hperm, hafter⟩ := exists_perm_of_before_eq_map hbefore
  have hne : permuted ≠ [] := by
    rintro rfl
    cases hperm.length_eq
  obtain ⟨arg', args', rfl⟩ := List.exists_cons_of_ne_nil hne
  have hlength' : layout.frames.length = args'.length :=
    h.length_eq.trans (Nat.succ.inj hperm.length_eq).symm
  have hedit : reorder text scanned ⟨shift.source, shift.target⟩ = ⟨first.start, last.stop,
      interleave shift.after (separators text scanned.ranges)⟩ :=
    reorder_shift hargs hfirst hlast
  have hstart := layout.start_of_head? h.framed (h.readable arg List.mem_cons_self)
    (h.ranges_eq ▸ hfirst)
  have hstop : last.stop = first.start +
      (interleave ((arg :: args).map fun arg => arg.flatMap Region.source)
        (gaps Region.source layout.frame.trail layout.frames)).length := by
    have hcount := congrArg List.length hslice
    rw [Text.length_slice hroom, hbefore, h.separators_eq] at hcount
    omega
  refine ⟨arg', args', hperm, ?_, ?_, ?_, ?_⟩
  · rw [hargs, Int.toNat_natCast, Int.toNat_natCast, moveItem_shift, hafter]
  · rw [hedit, hstart]
  · rw [hedit, hstop, hstart]
  · rw [← layout.apply_eq h.length_eq hlength' hstart hstop, h.text_eq, ← hafter,
      ← h.separators_eq, ← hedit]

end LaidOut

/-- A moved call reads back. If every literal and every comment that starts between the
parentheses of a flagged call is closed and no argument ends with a slash, then after the move
the masked source is what it was outside the edit, the opening parenthesis is closed where it
was, and the arguments between the parentheses are the old ones with the one moved. -/
theorem moved_call_reads_back {text : Text} {config : Config} {file : Option Text}
    {scanned : ScannedCall} {fix : Reorder}
    (h : Flagged (prepare text config file) scanned fix)
    (hclosed : ∀ before region after, regions text = before ++ region :: after →
      scanned.openParen < (before.flatMap Region.source).length →
      (before.flatMap Region.source).length < scanned.closeParen → region.IsClosed)
    (hslash : ∀ range ∈ scanned.ranges,
      (range.of text).getLast? ≠ some (CodePoint.ofChar '/')) :
    let edit := reorder text scanned fix
    let moved := edit.apply text
    (∀ offset : Nat, offset < edit.start ∨ edit.stop ≤ offset →
      (mask moved)[offset]? = (mask text)[offset]?) ∧
    findClosing (mask moved) scanned.openParen = some scanned.closeParen ∧
    (splitTopLevel (mask moved) (scanned.openParen + 1) scanned.closeParen).map (·.of moved) =
      moveItem (scanned.ranges.map (·.of text)) fix.argument.toNat fix.target.toNat := by
  intro edit moved
  obtain ⟨layout, arg, args, hlaid⟩ := h.exists_layout hclosed hslash
  obtain ⟨arg', args', hperm, hargs', hstart, hstop, hmoved⟩ := hlaid.exists_moved h
  change moved = layout.text arg' args' at hmoved
  have hlength' : layout.frames.length = args'.length :=
    hlaid.length_eq.trans (Nat.succ.inj hperm.length_eq).symm
  have hne' : args' ≠ [] := by
    rintro rfl
    exact hlaid.ne_nil (List.length_eq_zero_iff.mp (hlaid.length_eq.symm.trans hlength'))
  -- the moved arguments are the old ones, so they too are parsed in their new frames
  have hmovable' : ∀ arg'' ∈ arg' :: args', IsMovable arg'' :=
    fun arg'' harg => hlaid.movable arg'' (hperm.mem_iff.mp harg)
  have hreadable' : ∀ arg'' ∈ arg' :: args', IsReadable arg'' :=
    fun arg'' harg => (hmovable' arg'' harg).toIsReadable
  have hparsed' := layout.isParsed hlaid.sound hmovable'
  have hclose := layout.closeParen_of_perm hlaid.length_eq hperm
  rw [hlaid.closeParen_eq] at hclose
  refine ⟨fun offset hout => ?_, ?_, ?_⟩
  · rw [hmoved, ← hlaid.text_eq]
    refine layout.getElem?_mask_of_perm hlaid.parsed hparsed' hlaid.length_eq hperm ?_
    rw [hstart, hstop] at hout
    omega
  · rw [hmoved, ← hlaid.openParen_eq, ← hclose]
    exact layout.findClosing_mask hparsed' hlaid.sound hreadable'
  · rw [hmoved, ← hlaid.openParen_eq, ← hclose,
      layout.splitTopLevel_mask_of_ne_nil hparsed' hlaid.sound hreadable' hlength' hne',
      layout.map_of_parts hlaid.sound hreadable' hlength', hargs']

/-- An exception passes a verbatim literal with a doubled quote, across a comment up to the end
of its line and a comment with a parenthesis in it. -/
theorem moved_call_reads_back_comments :
    let text : Text := "Error(@\"a \"\"\x7bB\x7d\", // ,\n x /* ) */, new Exception())"
    let moved : Text := "Error(new Exception(), // ,\n @\"a \"\"\x7bB\x7d\" /* ) */, x)"
    ∃ scanned fix, Flagged (prepare text {} none) scanned fix ∧
      (reorder text scanned fix).apply text = moved ∧
      findClosing (mask moved) scanned.openParen = some scanned.closeParen ∧
      (splitTopLevel (mask moved) (scanned.openParen + 1) scanned.closeParen).map (·.of moved) =
        moveItem (scanned.ranges.map (·.of text)) 2 0 := by
  intro text moved
  have hfound : ∃ scanned ∈ scan (prepare text {} none),
      (∃ d ∈ (scanned.call.analyze (prepare text {} none).config.shapes).toOption.getD [],
        d.rule = .exceptionNotFirst ∧ d.fix = some ⟨2, 0⟩) ∧
      (∀ range ∈ scanned.ranges, (range.of text).getLast? ≠ some (CodePoint.ofChar '/')) ∧
      (reorder text scanned ⟨2, 0⟩).apply text = moved := by
    decide +kernel
  have hclosed : ∀ region ∈ regions text, region.IsClosed := by
    decide +kernel
  obtain ⟨scanned, hscan, ⟨d, hd, hrule, hfix⟩, hslash, hmoved⟩ := hfound
  cases hanalyze : scanned.call.analyze (prepare text {} none).config.shapes with
  | error numeral =>
    rw [hanalyze] at hd
    cases hd
  | ok found =>
    rw [hanalyze] at hd
    have hflagged : Flagged (prepare text {} none) scanned ⟨2, 0⟩ :=
      ⟨hscan, found, d, hanalyze, hd, hrule, hfix⟩
    obtain ⟨_, hclosing, hsplit⟩ := moved_call_reads_back hflagged
      (fun before region after hregions _ _ => hclosed region
        (hregions ▸ List.mem_append_right _ List.mem_cons_self)) hslash
    rw [hmoved] at hclosing hsplit
    exact ⟨scanned, ⟨2, 0⟩, hflagged, hmoved, hclosing, hsplit⟩

end TemplateLint.Source
