import TemplateLint.Proofs.Template.Reading
import TemplateLint.Proofs.Template.Written

/-!
# Overlong numbers

Numbers are converted up to a fixed number of digits. A template that reaches a longer number,
as an alignment or as an index, has neither segments nor a fault. Main statement: parsing
gives segments or a fault exactly when no such number is reached, where everything that is
looked at before the number has to be in order.
-/

namespace TemplateLint.Template

open Outcome

variable {value : Text} {start : Nat}

/-- A number is refused exactly when it has too many digits. -/
theorem readNumeral_eq_error_iff {digits : Text} {rejection : Rejection} :
    readNumeral digits = .error rejection ↔
      Text.digitLimit < digits.length ∧ rejection = .oversized ⟨digits.length⟩ := by
  unfold readNumeral Text.readNumeral
  split
  · next hlong => exact ⟨fun h => ⟨hlong, by cases h; rfl⟩, fun h => by rw [h.2]; rfl⟩
  · next hshort => exact ⟨nofun, fun h => absurd h.1 hshort⟩

/-- A code point that is refused is a fault. -/
theorem exists_fault_of_checkAll {valid : CodePoint → Bool} {cause : CodePoint → Cause} {t : Text}
    {rejection : Rejection} (h : checkAll valid cause start t = .error rejection) :
    ∃ fault, rejection = .malformed fault := by
  induction t generalizing start with
  | nil => cases h
  | cons c rest ih =>
    rw [checkAll] at h
    split at h
    · exact ih h
    · cases h
      exact ⟨_, rfl⟩

/-- A name that is refused is a fault. -/
theorem exists_fault_of_readName {brace length : Nat} {hinted : Bool} {name : Text}
    {rejection : Rejection} (h : readName brace length start hinted name = .error rejection) :
    ∃ fault, rejection = .malformed fault := by
  unfold readName at h
  split at h
  · cases h
    exact ⟨_, rfl⟩
  · exact exists_fault_of_checkAll h

/-- What follows a comma is a fault, or a sign and digits. -/
theorem readAlignment_fault_or_digits (commaAt : Nat) (text : Text) :
    (∃ fault, readAlignment commaAt text = .error (.malformed fault)) ∨
      ∃ isLeft digits, text = alignmentText isLeft digits ∧ digits ≠ [] ∧
        ∀ c ∈ digits, c.isAsciiDigit := by
  by_cases htext : text = []
  · refine .inl ⟨⟨.noAlignment, commaAt, 1⟩, ?_⟩
    rw [readAlignment, if_pos htext]
    rfl
  · unfold readAlignment
    rw [if_neg htext]
    dsimp only
    generalize hleft : decide (text.head? = some (CodePoint.ofChar '-')) = isLeft
    generalize hdigits : (if isLeft = true then List.tail text else text) = digits
    have hsign : text = alignmentText isLeft digits := by
      rw [alignmentText, ← hdigits]
      cases isLeft with
      | false => rfl
      | true =>
        obtain ⟨rest, rfl⟩ := List.head?_eq_some_iff.mp (of_decide_eq_true hleft)
        rfl
    cases hcheck : checkAll CodePoint.isAsciiDigit
        (fun c => if c = '-' then .misplacedMinus else .alignmentChar c)
        (commaAt + 1 + (text.length - digits.length)) digits with
    | error rejection =>
      obtain ⟨fault, rfl⟩ := exists_fault_of_checkAll hcheck
      exact .inl ⟨fault, rfl⟩
    | ok _ =>
      by_cases hne : digits = []
      · refine .inl ⟨⟨.noAlignment, commaAt, 1⟩, ?_⟩
        rw [ok_bind, if_pos hne]
        rfl
      · exact .inr ⟨isLeft, digits, hsign, hne, checkAll_eq_ok_iff.mp hcheck⟩

/-- What stands between braces is a fault, or is written from parts that can be told apart. -/
theorem readProperty_fault_or_legible (start : Nat) (body : Text) :
    (∃ fault, readProperty start body = .error (.malformed fault)) ∨
      ∃ w : Written, w.Legible ∧ w.text = body := by
  unfold readProperty
  dsimp only
  simp only [decide_eq_true_eq]
  have hwritten := @text_of_body body
  generalize (if readCapture ((body.before ':').before ',') ≠ .plain then
    List.tail ((body.before ':').before ',') else (body.before ':').before ',') = name
    at hwritten ⊢
  generalize start + 1 + (((body.before ':').before ',').length - name.length) = nameAt
  cases hname : readName start (body.length + 2) nameAt
      (decide (readCapture ((body.before ':').before ',') ≠ .plain)) name with
  | error rejection =>
    obtain ⟨fault, rfl⟩ := exists_fault_of_readName hname
    exact .inl ⟨fault, rfl⟩
  | ok _ =>
    obtain ⟨hne, hword⟩ := readName_eq_ok_iff.mp hname
    cases hafter : (body.before ':').after? ',' with
    | none =>
      refine .inr ⟨_, ⟨hne, hword, ?_, ?_⟩, @hwritten none hafter⟩
      · rintro part ⟨⟩
      · rintro part ⟨⟩
    | some text =>
      rcases readAlignment_fault_or_digits (start + 1 + ((body.before ':').before ',').length)
        text with ⟨fault, hfault⟩ | ⟨isLeft, digits, rfl, hdigits, hall⟩
      · refine .inl ⟨fault, ?_⟩
        rw [ok_bind, Option.mapM_some, hfault]
        rfl
      · refine .inr ⟨_, ⟨hne, hword, ?_, ?_⟩, @hwritten (some (isLeft, digits)) hafter⟩
        · rintro part ⟨⟩
          exact hdigits
        · rintro part ⟨⟩
          exact hall

/-- A number among the parts of a property has too many digits, which are counted, and nothing
that is looked at before this number is a fault. An alignment is converted before the format
is looked at, and an index last. -/
inductive Written.Overlong (w : Written) : Nat → Prop
  /-- The alignment is too long, zeros included. -/
  | alignment {part : Bool × Text} (h : w.Legible) (halign : w.alignment = some part)
      (hlong : Text.digitLimit < part.2.length) : w.Overlong part.2.length
  /-- The name is an index that is too long. -/
  | index (h : w.Valid)
      (hshort : ∀ part, w.alignment = some part → part.2.length ≤ Text.digitLimit)
      (hdigits : ∀ c ∈ w.name, c.isAsciiDigit) (hlong : Text.digitLimit < w.name.length) :
    w.Overlong w.name.length

/-- Parts with an overlong number can be told apart. -/
theorem Written.Overlong.legible {w : Written} {n : Nat} (h : w.Overlong n) : w.Legible := by
  cases h with
  | alignment h _ _ => exact h
  | index h _ _ _ => exact h.legible

/-- An overlong number is refused. -/
theorem Written.Overlong.readProperty_eq {w : Written} {n : Nat} (h : w.Overlong n)
    (start : Nat) : readProperty start w.text = .error (.oversized ⟨n⟩) := by
  rw [readProperty_legible h.legible]
  cases h with
  | @alignment part h halign hlong =>
    rw [halign, Option.map_some, Option.mapM_some,
      readAlignment_digits _ (h.digits_ne_nil part halign) (h.digits_isDigit part halign),
      readNumeral_eq_error_iff.mpr ⟨hlong, rfl⟩]
    rfl
  | index h hshort hdigits hlong =>
    have hformat : ∀ c ∈ w.format.getD [], c.isFormat := by
      cases hsome : w.format with
      | none => exact List.forall_mem_nil _
      | some format =>
        exact fun c hc => (isFormatPoint_iff.mp (h.format_isFormat format hsome c hc)).2
    rw [mapM_readAlignment_text h hshort, ok_bind, checkAll_eq_ok_iff.mpr hformat, ok_bind,
      if_pos (List.all_eq_true.mpr hdigits), readNumeral_eq_error_iff.mpr ⟨hlong, rfl⟩]
    rfl

/-- An alignment that is read is a number other than zero that is not too long. -/
theorem Written.Legible.isNumeral_of_mapM {w : Written} (h : w.Legible) {commaAt : Nat}
    {alignment : Option Alignment}
    (hread : (w.alignment.map fun part => alignmentText part.1 part.2).mapM
      (readAlignment commaAt) = .ok alignment) {part : Bool × Text}
    (hpart : w.alignment = some part) :
    IsNumeral part.2 ∧ part.2.length ≤ Text.digitLimit := by
  have hne := h.digits_ne_nil part hpart
  have hdigits := h.digits_isDigit part hpart
  rw [hpart, Option.map_some, Option.mapM_some, readAlignment_digits _ hne hdigits] at hread
  obtain ⟨found, hfound, _⟩ := bind_eq_ok hread
  obtain ⟨number, hnumber, hzero⟩ := bind_eq_ok hfound
  obtain ⟨hlimit, rfl⟩ := readNumeral_eq_ok_iff.mp hnumber
  refine ⟨⟨hne, hdigits, fun hvalue => ?_⟩, hlimit⟩
  rw [if_pos hvalue] at hzero
  cases hzero

/-- A format that is accepted holds what a format may hold. -/
theorem Written.isFormatPoint_of_checkAll {w : Written} {formatAt : Nat}
    (hbrace : CodePoint.ofChar '}' ∉ w.text)
    (hcheck : checkAll CodePoint.isFormat .formatChar formatAt (w.format.getD []) = .ok ())
    {format : Text} (hformat : w.format = some format) : ∀ c ∈ format, IsFormatPoint c := by
  intro c hc
  rw [hformat] at hcheck
  refine isFormatPoint_iff.mpr ⟨?_, checkAll_eq_ok_iff.mp hcheck c hc⟩
  rintro rfl
  refine hbrace (List.mem_append_right _ ?_)
  rw [hformat]
  exact List.mem_cons_of_mem _ hc

/-- Only an overlong alignment is refused without a fault. -/
theorem Written.Legible.overlong_of_mapM {w : Written} (h : w.Legible) {commaAt : Nat}
    {numeral : Text.Oversized}
    (hread : (w.alignment.map fun part => alignmentText part.1 part.2).mapM
      (readAlignment commaAt) = .error (.oversized numeral)) : w.Overlong numeral.digits := by
  cases hpart : w.alignment with
  | none =>
    rw [hpart] at hread
    cases hread
  | some part =>
    rw [hpart, Option.map_some, Option.mapM_some, readAlignment_digits _
      (h.digits_ne_nil part hpart) (h.digits_isDigit part hpart)] at hread
    rcases bind_eq_error hread with hfound | ⟨_, _, hdone⟩
    · rcases bind_eq_error hfound with hnumber | ⟨number, _, hzero⟩
      · obtain ⟨hlong, heq⟩ := readNumeral_eq_error_iff.mp hnumber
        cases heq
        exact .alignment h hpart hlong
      · split at hzero <;> cases hzero
    · cases hdone

/-- Only an overlong number is refused without a fault. The steps in turn are the alignment,
the format and the index. -/
theorem Written.Legible.overlong {w : Written} (h : w.Legible) {numeral : Text.Oversized}
    (hbrace : CodePoint.ofChar '}' ∉ w.text)
    (hread : readProperty start w.text = .error (.oversized numeral)) :
    w.Overlong numeral.digits := by
  rw [readProperty_legible h] at hread
  rcases bind_eq_error hread with halign | ⟨alignment, halign, hread⟩
  · exact h.overlong_of_mapM halign
  rcases bind_eq_error hread with hformat | ⟨_, hformat, hread⟩
  · obtain ⟨fault, hfault⟩ := exists_fault_of_checkAll hformat
    cases hfault
  have hvalid : w.Valid :=
    ⟨h.name_ne_nil, h.name_isWord, fun part hpart => (h.isNumeral_of_mapM halign hpart).1,
      fun format hsome => Written.isFormatPoint_of_checkAll hbrace hformat hsome⟩
  dsimp only at hread
  split at hread
  · next hdigits =>
    rcases bind_eq_error hread with hindex | ⟨_, _, hdone⟩
    · rcases bind_eq_error hindex with hnumber | ⟨_, _, hdone⟩
      · obtain ⟨hlong, heq⟩ := readNumeral_eq_error_iff.mp hnumber
        cases heq
        exact .index hvalid (fun part hpart => (h.isNumeral_of_mapM halign hpart).2)
          (List.all_eq_true.mp hdigits) hlong
      · cases hdone
    · cases hdone
  · cases hread

/-- A template is refused without a fault exactly when it reaches an overlong number: what
comes before the property with this number is a template of its own. -/
theorem parse_eq_oversized_iff {n : Nat} :
    parse value = .error (.oversized ⟨n⟩) ↔
      ∃ (front : Text) (w : Written) (rest : Text), value = front ++ (braced w.text ++ rest) ∧
        (∃ segments, parse front = .ok segments) ∧ CodePoint.ofChar '}' ∉ w.text ∧
        w.Overlong n := by
  rw [parse_eq_error_iff]
  constructor
  · rintro ⟨front, rest, rfl, ⟨found, hreads⟩, hhead, hrefused⟩
    cases hrefused with
    | @body body tail _ hbody hread =>
      rcases readProperty_fault_or_legible (0 + front.length) body with
        ⟨fault, hfault⟩ | ⟨w, hlegible, rfl⟩
      · rw [hfault] at hread
        cases hread
      · exact ⟨front, w, tail, by rw [braced_append], hreads.exists_parse, hbody,
          hlegible.overlong hbody hread⟩
  · rintro ⟨front, w, rest, rfl, ⟨segments, hsegments⟩, hbrace, hoverlong⟩
    obtain ⟨found, hfound, _⟩ := map_eq_ok hsegments
    refine ⟨front, w.text ++ CodePoint.ofChar '}' :: rest, by rw [braced_append],
      ⟨found, pieces_eq_ok_iff.mp hfound⟩, hoverlong.legible.head_text _, ?_⟩
    exact .body hbrace (hoverlong.readProperty_eq _)

/-- A property with a name and an alignment of too many digits is refused without a fault. -/
theorem parse_overlong_alignment {name digits : Text} (hname : name ≠ [])
    (hword : ∀ c ∈ name, c.isAsciiWord) (hdigits : ∀ c ∈ digits, c.isAsciiDigit)
    (hlong : Text.digitLimit < digits.length) :
    parse (braced (name ++ CodePoint.ofChar ',' :: digits)) =
      .error (.oversized ⟨digits.length⟩) := by
  let w : Written := ⟨.plain, name, some (false, digits), none⟩
  have htext : w.text = name ++ CodePoint.ofChar ',' :: digits := by
    simp [w, Written.text, Written.front, Written.label, Capture.hint, Text.marked, alignmentText]
  have hlegible : w.Legible := by
    refine ⟨hname, hword, ?_, ?_⟩
    · rintro part ⟨⟩ rfl
      exact absurd hlong (by decide)
    · rintro part ⟨⟩
      exact hdigits
  have hbrace : CodePoint.ofChar '}' ∉ w.text := by
    rw [htext]
    intro hmem
    rcases List.mem_append.mp hmem with hmem | hmem
    · exact absurd (hword _ hmem) (by decide)
    · rcases List.mem_cons.mp hmem with hcomma | hmem
      · exact absurd hcomma (by decide)
      · exact absurd (hdigits _ hmem) (by decide)
  refine parse_eq_oversized_iff.mpr
    ⟨[], w, [], ?_, Reads.nil.exists_parse, hbrace, .alignment hlegible rfl hlong⟩
  rw [htext, List.nil_append, List.append_nil]

/-- Parsing gives segments or a fault exactly when the template reaches no overlong number. -/
theorem parse_has_outcome_iff (value : Text) :
    ((∃ segments, parse value = .ok segments) ∨
        ∃ fault, parse value = .error (.malformed fault)) ↔
      ∀ (front : Text) (w : Written) (rest : Text), value = front ++ (braced w.text ++ rest) →
        (∃ segments, parse front = .ok segments) → CodePoint.ofChar '}' ∉ w.text →
        ∀ n, ¬ w.Overlong n := by
  constructor
  · intro houtcome front w rest hvalue hfront hbrace n hoverlong
    have hparse := parse_eq_oversized_iff.mpr ⟨front, w, rest, hvalue, hfront, hbrace, hoverlong⟩
    rcases houtcome with ⟨segments, h⟩ | ⟨fault, h⟩
    · rw [hparse] at h
      cases h
    · rw [hparse] at h
      cases h
  · intro hshort
    cases hparse : parse value with
    | ok segments => exact .inl ⟨segments, rfl⟩
    | error rejection =>
      cases rejection with
      | malformed fault => exact .inr ⟨fault, rfl⟩
      | oversized numeral =>
        obtain ⟨front, w, rest, hvalue, hfront, hbrace, hoverlong⟩ :=
          parse_eq_oversized_iff.mp hparse
        exact absurd hoverlong (hshort front w rest hvalue hfront hbrace _)

/-- One digit more than can be converted, as the name of a property: there are neither
segments nor a fault. -/
theorem parse_without_outcome :
    let digits : Text := List.replicate 4301 (CodePoint.ofChar '1')
    parse (braced digits) = .error (.oversized ⟨4301⟩) := by
  intro digits
  have hdigit : ∀ c ∈ digits, c = CodePoint.ofChar '1' := fun c hc => List.eq_of_mem_replicate hc
  have hlength : digits.length = 4301 := List.length_replicate
  let w : Written := ⟨.plain, digits, none, none⟩
  have htext : w.text = digits := by
    simp [w, Written.text, Written.front, Written.label, Capture.hint, Text.marked]
  have hvalid : w.Valid := by
    refine ⟨fun hnil => ?_, fun c hc => ?_, fun part hpart => ?_, fun format hformat => ?_⟩
    · have hzero := congrArg List.length hnil
      rw [hlength] at hzero
      cases hzero
    · rw [hdigit c hc]
      decide
    · cases hpart
    · cases hformat
  have hoverlong : w.Overlong digits.length := by
    refine .index hvalid (fun part hpart => ?_) (fun c hc => ?_) ?_
    · cases hpart
    · rw [hdigit c hc]
      decide
    · rw [hlength]
      decide
  rw [hlength] at hoverlong
  refine parse_eq_oversized_iff.mpr ⟨[], w, [], ?_, Reads.nil.exists_parse, ?_, hoverlong⟩
  · rw [htext, List.nil_append, List.append_nil]
  · rw [htext]
    intro hmem
    exact absurd (hdigit _ hmem) (by decide)

end TemplateLint.Template
