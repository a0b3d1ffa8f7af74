import TemplateLint.Proofs.Basic
import TemplateLint.Proofs.Text.Cut
import TemplateLint.Template.Parser

/-!
# Written properties

What may stand between the braces of a property, as parts and not as a text: a hint, a
name, an alignment and a format. Reading a text as a property succeeds exactly when the
text is written from valid parts whose numbers can be converted, and then the property
has these parts.
-/

namespace TemplateLint.Template

open Outcome

/-- The hint of a capture. -/
def Capture.hint : Capture → Text
  | .plain => []
  | .destructure => ['@']
  | .stringify => ['$']

/-- The digits of an alignment, behind a minus sign if the value is moved to the left. -/
def alignmentText (isLeft : Bool) (digits : Text) : Text :=
  if isLeft then '-' :: digits else digits

/-- Digits that write a number other than zero. -/
structure IsNumeral (digits : Text) : Prop where
  /-- There is a digit. -/
  ne_nil : digits ≠ []
  /-- There is nothing but digits. -/
  isDigit : ∀ c ∈ digits, c.isAsciiDigit
  /-- The number is not zero. -/
  ne_zero : digits.decimalValue ≠ 0

/-- What a format may hold: the space, letters, punctuation and decimal digits, but no
closing brace. -/
def IsFormatPoint (c : CodePoint) : Prop :=
  c ≠ '}' ∧ (c = ' ' ∨ c.inRanges Text.letterRanges ∨ c.inRanges Text.punctuationRanges ∨
    c.inRanges Text.decimalDigitRanges)

instance : DecidablePred IsFormatPoint := fun _ => inferInstanceAs (Decidable (_ ∧ _))

/-- The parts of a property as they are written. -/
structure Written where
  /-- The capture whose hint stands first. -/
  capture : Capture
  /-- The name. -/
  name : Text
  /-- Whether a minus sign stands in front of the alignment, and its digits. -/
  alignment : Option (Bool × Text)
  /-- The format. -/
  format : Option Text

namespace Written

/-- The hint and the name. -/
def label (w : Written) : Text :=
  w.capture.hint ++ w.name

/-- Everything in front of the format: the label, and the alignment behind a comma. -/
def front (w : Written) : Text :=
  w.label ++ Text.marked ',' (w.alignment.map fun part => alignmentText part.1 part.2)

/-- The text between the braces: the front, and the format behind a colon. -/
def text (w : Written) : Text :=
  w.front ++ Text.marked ':' w.format

/-- The parts can be told apart: the name is a word and the alignment consists of digits. The
format may hold anything. -/
structure Legible (w : Written) : Prop where
  /-- There is a name. -/
  name_ne_nil : w.name ≠ []
  /-- The name holds letters, digits and underscores. -/
  name_isWord : ∀ c ∈ w.name, c.isAsciiWord
  /-- An alignment has a digit. -/
  digits_ne_nil : ∀ part, w.alignment = some part → part.2 ≠ []
  /-- An alignment has nothing but digits. -/
  digits_isDigit : ∀ part, w.alignment = some part → ∀ c ∈ part.2, c.isAsciiDigit

/-- The parts are what they should be. -/
structure Valid (w : Written) : Prop where
  /-- There is a name. -/
  name_ne_nil : w.name ≠ []
  /-- The name holds letters, digits and underscores. -/
  name_isWord : ∀ c ∈ w.name, c.isAsciiWord
  /-- An alignment is a number other than zero. -/
  alignment_isNumeral : ∀ part, w.alignment = some part → IsNumeral part.2
  /-- A format holds what a format may hold. -/
  format_isFormat : ∀ format, w.format = some format → ∀ c ∈ format, IsFormatPoint c

/-- The numbers are short enough to be converted. -/
structure Convertible (w : Written) : Prop where
  /-- A name of digits is converted to an index. -/
  name_length : (∀ c ∈ w.name, c.isAsciiDigit) → w.name.length ≤ Text.digitLimit
  /-- The digits of an alignment are converted to its width. -/
  alignment_length : ∀ part, w.alignment = some part → part.2.length ≤ Text.digitLimit

/-- The property with these parts that opens at `start`. -/
def hole (w : Written) (start : Nat) : Property where
  name := w.name
  index := if w.name.all CodePoint.isAsciiDigit then some w.name.decimalValue else none
  capture := w.capture
  alignment := w.alignment.map fun part => ⟨part.2.decimalValue, part.1⟩
  format := w.format
  start := start
  length := w.text.length + 2

end Written

/-- A text between braces. -/
def braced (body : Text) : Text :=
  '{' :: (body ++ [CodePoint.ofChar '}'])

/-- What follows a text in braces follows its closing brace. -/
theorem braced_append (body tail : Text) :
    braced body ++ tail = CodePoint.ofChar '{' :: (body ++ CodePoint.ofChar '}' :: tail) := by
  rw [braced, List.cons_append, List.append_assoc, List.singleton_append]

/-- A format point is a code point that the check of formats accepts and that does not
close the property. -/
theorem isFormatPoint_iff {c : CodePoint} : IsFormatPoint c ↔ c ≠ '}' ∧ c.isFormat = true := by
  simp only [IsFormatPoint, CodePoint.isFormat, Bool.or_eq_true, decide_eq_true_eq, or_assoc]

namespace Written

/-- Valid parts can be told apart. -/
theorem Valid.legible {w : Written} (h : w.Valid) : w.Legible where
  name_ne_nil := h.name_ne_nil
  name_isWord := h.name_isWord
  digits_ne_nil := fun part hpart => (h.alignment_isNumeral part hpart).ne_nil
  digits_isDigit := fun part hpart => (h.alignment_isNumeral part hpart).isDigit

/-- The name stands between the braces. -/
theorem name_infix_text (w : Written) : w.name <:+: w.text := by
  have hlabel : w.name <:+ w.label := List.suffix_append _ _
  exact hlabel.isInfix.trans ((List.prefix_append _ _).trans (List.prefix_append _ _)).isInfix

/-- The digits of an alignment stand between the braces. -/
theorem digits_infix_text {w : Written} {part : Bool × Text} (h : w.alignment = some part) :
    part.2 <:+: w.text := by
  have halign : part.2 <:+
      Text.marked ',' (w.alignment.map fun part => alignmentText part.1 part.2) := by
    rw [h, Option.map_some, Text.marked, alignmentText]
    split
    · exact (List.suffix_cons _ _).trans (List.suffix_cons _ _)
    · exact List.suffix_cons _ _
  exact (halign.trans (List.suffix_append _ _)).isInfix.trans (List.prefix_append _ _).isInfix

/-- A hint is no other code point. -/
theorem not_mem_hint {c : CodePoint} (hat : c ≠ '@') (hdollar : c ≠ '$') (capture : Capture) :
    c ∉ capture.hint := by
  cases capture with
  | plain => exact List.not_mem_nil
  | destructure => exact fun h => hat (List.mem_singleton.mp h)
  | stringify => exact fun h => hdollar (List.mem_singleton.mp h)

/-- A label holds nothing but a hint and word characters. -/
theorem not_mem_label {w : Written} (h : w.Legible) {c : CodePoint} (hat : c ≠ '@')
    (hdollar : c ≠ '$') (hword : c.isAsciiWord = false) : c ∉ w.label := by
  intro hmem
  rcases List.mem_append.mp hmem with hmem | hmem
  · exact not_mem_hint hat hdollar _ hmem
  · exact absurd (h.name_isWord c hmem) (by rw [hword]; exact Bool.false_ne_true)

/-- A front holds nothing but a hint, word characters, a comma and a minus sign. -/
theorem not_mem_front {w : Written} (h : w.Legible) {c : CodePoint} (hat : c ≠ '@')
    (hdollar : c ≠ '$') (hcomma : c ≠ ',') (hminus : c ≠ '-') (hword : c.isAsciiWord = false) :
    c ∉ w.front := by
  intro hmem
  rcases List.mem_append.mp hmem with hmem | hmem
  · exact not_mem_label h hat hdollar hword hmem
  · cases halign : w.alignment with
    | none =>
      rw [halign] at hmem
      exact List.not_mem_nil hmem
    | some part =>
      have hdigit : c ∉ part.2 := by
        intro hmem
        have hdigit := h.digits_isDigit part halign c hmem
        rw [CodePoint.isAsciiWord, hdigit, Bool.or_true] at hword
        cases hword
      rw [halign, Option.map_some, Text.marked, alignmentText] at hmem
      rcases List.mem_cons.mp hmem with hmem | hmem
      · exact hcomma hmem
      · split at hmem
        · rcases List.mem_cons.mp hmem with hmem | hmem
          · exact hminus hmem
          · exact hdigit hmem
        · exact hdigit hmem

/-- The closing brace stands nowhere between the braces. -/
theorem brace_not_mem_text {w : Written} (h : w.Valid) : CodePoint.ofChar '}' ∉ w.text := by
  intro hmem
  rcases List.mem_append.mp hmem with hmem | hmem
  · exact not_mem_front h.legible (by decide) (by decide) (by decide) (by decide) (by decide) hmem
  · cases hformat : w.format with
    | none =>
      rw [hformat] at hmem
      exact List.not_mem_nil hmem
    | some format =>
      rw [hformat, Text.marked] at hmem
      rcases List.mem_cons.mp hmem with hmem | hmem
      · exact absurd hmem (by decide)
      · exact (h.format_isFormat format hformat _ hmem).1 rfl

/-- What stands between the braces does not start with an opening one. -/
theorem Legible.head_text {w : Written} (h : w.Legible) (rest : Text) :
    (w.text ++ rest).head? ≠ some (CodePoint.ofChar '{') := by
  have hne : w.label ≠ [] := List.append_ne_nil_of_right_ne_nil _ h.name_ne_nil
  have hnot := not_mem_label h (c := '{') (by decide) (by decide) (by decide)
  intro hhead
  obtain ⟨c, label, hlabel⟩ := List.exists_cons_of_ne_nil hne
  rw [text, front, hlabel] at hhead
  cases hhead
  rw [hlabel] at hnot
  exact hnot List.mem_cons_self

end Written

/-- Every code point is accepted exactly when the check of a text succeeds. -/
theorem checkAll_eq_ok_iff {valid : CodePoint → Bool} {cause : CodePoint → Cause} {start : Nat}
    {t : Text} : checkAll valid cause start t = .ok () ↔ ∀ c ∈ t, valid c := by
  induction t generalizing start with
  | nil => exact ⟨fun _ => List.forall_mem_nil _, fun _ => rfl⟩
  | cons c rest ih =>
    rw [checkAll, List.forall_mem_cons]
    by_cases hc : valid c
    · rw [if_pos hc, ih]
      exact ⟨fun h => ⟨hc, h⟩, And.right⟩
    · rw [if_neg hc]
      exact ⟨nofun, fun h => absurd h.1 hc⟩

/-- Digits are converted to their value exactly when there are not too many of them. -/
theorem readNumeral_eq_ok_iff {digits : Text} {n : Nat} :
    readNumeral digits = .ok n ↔ digits.length ≤ Text.digitLimit ∧ digits.decimalValue = n := by
  unfold readNumeral Text.readNumeral
  split
  · next h => exact ⟨nofun, fun hn => absurd hn.1 (by omega)⟩
  · next h =>
    exact ⟨fun hn => ⟨by omega, by cases hn; rfl⟩, fun hn => by rw [hn.2]; rfl⟩

/-- Digits do not start with a minus sign. -/
theorem head?_ne_minus {digits : Text} (h : ∀ c ∈ digits, c.isAsciiDigit) :
    digits.head? ≠ some (CodePoint.ofChar '-') := by
  intro hhead
  exact absurd (h _ (List.mem_of_head? hhead)) (by decide)

/-- What is read as an alignment is a sign and a number. -/
theorem readAlignment_eq_ok {commaAt : Nat} {text : Text} {alignment : Alignment}
    (h : readAlignment commaAt text = .ok alignment) :
    ∃ digits, text = alignmentText alignment.isLeft digits ∧ IsNumeral digits ∧
      digits.length ≤ Text.digitLimit ∧ alignment.value = digits.decimalValue := by
  unfold readAlignment at h
  by_cases htext : text = []
  · rw [if_pos htext] at h
    cases h
  · rw [if_neg htext] at h
    dsimp only at h
    generalize hleft : decide (text.head? = some (CodePoint.ofChar '-')) = isLeft at h
    generalize hdigits : (if isLeft = true then List.tail text else text) = digits at h
    obtain ⟨_, hcheck, h⟩ := bind_eq_ok h
    by_cases hne : digits = []
    · rw [if_pos hne] at h
      cases h
    · rw [if_neg hne] at h
      obtain ⟨value, hvalue, h⟩ := bind_eq_ok h
      obtain ⟨hlimit, rfl⟩ := readNumeral_eq_ok_iff.mp hvalue
      by_cases hzero : Text.decimalValue digits = 0
      · rw [if_pos hzero] at h
        cases h
      · rw [if_neg hzero] at h
        cases h
        refine ⟨digits, ?_, ⟨hne, checkAll_eq_ok_iff.mp hcheck, hzero⟩, hlimit, rfl⟩
        rw [alignmentText, ← hdigits]
        cases isLeft with
        | false => rfl
        | true =>
          obtain ⟨rest, rfl⟩ := List.head?_eq_some_iff.mp (of_decide_eq_true hleft)
          rfl

/-- Behind a sign, digits are converted, and zero is refused. -/
theorem readAlignment_digits (isLeft : Bool) {digits : Text} (hne : digits ≠ [])
    (hdigits : ∀ c ∈ digits, c.isAsciiDigit) (commaAt : Nat) :
    readAlignment commaAt (alignmentText isLeft digits) = (do
      let value ← readNumeral digits
      if value = 0 then throw (.at .zeroAlignment (commaAt + 1))
      return ⟨value, isLeft⟩) := by
  have htext : alignmentText isLeft digits ≠ [] := by
    cases isLeft with
    | false => exact hne
    | true => exact List.cons_ne_nil _ _
  have hleft : decide ((alignmentText isLeft digits).head? = some (CodePoint.ofChar '-')) =
      isLeft := by
    cases isLeft with
    | false => exact decide_eq_false (head?_ne_minus hdigits)
    | true => rfl
  have htail : (if isLeft = true then (alignmentText isLeft digits).tail
      else alignmentText isLeft digits) = digits := by
    cases isLeft <;> rfl
  unfold readAlignment
  rw [if_neg htext]
  dsimp only
  rw [hleft, htail, checkAll_eq_ok_iff.mpr hdigits, if_neg hne]
  rfl

/-- A sign and a number are read as an alignment. -/
theorem readAlignment_text (isLeft : Bool) {digits : Text} (h : IsNumeral digits)
    (hlimit : digits.length ≤ Text.digitLimit) (commaAt : Nat) :
    readAlignment commaAt (alignmentText isLeft digits) = .ok ⟨digits.decimalValue, isLeft⟩ := by
  rw [readAlignment_digits isLeft h.ne_nil h.isDigit, readNumeral_eq_ok_iff.mpr ⟨hlimit, rfl⟩]
  exact if_neg h.ne_zero

/-- The hint in front of a word tells its capture. -/
theorem readCapture_label {w : Written} (h : w.Legible) : readCapture w.label = w.capture := by
  unfold readCapture Written.label
  cases w.capture with
  | plain =>
    have hat : w.name.head? ≠ some (CodePoint.ofChar '@') := fun hhead =>
      absurd (h.name_isWord _ (List.mem_of_head? hhead)) (by decide)
    have hdollar : w.name.head? ≠ some (CodePoint.ofChar '$') := fun hhead =>
      absurd (h.name_isWord _ (List.mem_of_head? hhead)) (by decide)
    rw [Capture.hint, List.nil_append, if_neg hat, if_neg hdollar]
  | destructure => rfl
  | stringify => rfl

/-- A label is its hint and the rest. -/
theorem hint_append_name (label : Text) :
    (readCapture label).hint ++ (if readCapture label ≠ .plain then label.tail else label) =
      label := by
  unfold readCapture
  split
  · next hhead =>
    obtain ⟨rest, rfl⟩ := List.head?_eq_some_iff.mp hhead
    rfl
  · split
    · next hhead =>
      obtain ⟨rest, rfl⟩ := List.head?_eq_some_iff.mp hhead
      rfl
    · rfl

/-- A name is accepted exactly when it is a nonempty word. -/
theorem readName_eq_ok_iff {brace length start : Nat} {hinted : Bool} {name : Text} :
    readName brace length start hinted name = .ok () ↔ name ≠ [] ∧ ∀ c ∈ name, c.isAsciiWord := by
  unfold readName
  split
  · next h => exact ⟨nofun, fun hname => absurd h hname.1⟩
  · next h =>
    rw [checkAll_eq_ok_iff]
    exact ⟨fun hname => ⟨h, hname⟩, And.right⟩

/-- A written alignment is read, and no alignment as none. -/
theorem mapM_readAlignment_text {w : Written} (h : w.Valid)
    (hlimit : ∀ part, w.alignment = some part → part.2.length ≤ Text.digitLimit) (commaAt : Nat) :
    (w.alignment.map fun part => alignmentText part.1 part.2).mapM (readAlignment commaAt) =
      .ok (w.alignment.map fun part => ⟨part.2.decimalValue, part.1⟩) := by
  cases halign : w.alignment with
  | none => rfl
  | some part =>
    have hread := readAlignment_text part.1 (h.alignment_isNumeral part halign)
      (hlimit part halign) commaAt
    rw [Option.map_some, Option.mapM_some, hread]
    rfl

/-- Parts that can be told apart are told apart: what is left to do is to read the alignment,
check the format and convert the index. -/
theorem readProperty_legible {w : Written} (h : w.Legible) (start : Nat) :
    readProperty start w.text = (do
      let alignment ← (w.alignment.map fun part => alignmentText part.1 part.2).mapM
        (readAlignment (start + 1 + w.label.length))
      checkAll CodePoint.isFormat .formatChar (start + 2 + w.front.length) (w.format.getD [])
      let index ← if w.name.all CodePoint.isAsciiDigit then some <$> readNumeral w.name
        else pure none
      return { name := w.name, index, capture := w.capture, alignment, format := w.format, start
               length := w.text.length + 2 }) := by
  have hcolon : CodePoint.ofChar ':' ∉ w.front := Written.not_mem_front h (by decide) (by decide)
    (by decide) (by decide) (by decide)
  have hcomma : CodePoint.ofChar ',' ∉ w.label := Written.not_mem_label h (by decide) (by decide)
    (by decide)
  have hname : (if w.capture ≠ .plain then w.label.tail else w.label) = w.name := by
    unfold Written.label
    cases w.capture <;> rfl
  have hfront : w.text.before ':' = w.front := Text.before_marked hcolon _
  have hafter : w.text.after? ':' = w.format := Text.after?_marked hcolon _
  have hlabel : w.front.before ',' = w.label := Text.before_marked hcomma _
  have halign : w.front.after? ',' = w.alignment.map fun part => alignmentText part.1 part.2 :=
    Text.after?_marked hcomma _
  unfold readProperty
  dsimp only
  rw [hfront, hafter, hlabel, halign, readCapture_label h]
  simp only [decide_eq_true_eq]
  rw [hname, readName_eq_ok_iff.mpr ⟨h.name_ne_nil, h.name_isWord⟩, ok_bind]

/-- Valid parts with short numbers are read as the property that has them. -/
theorem readProperty_text {w : Written} (h : w.Valid) (hconv : w.Convertible) (start : Nat) :
    readProperty start w.text = .ok (w.hole start) := by
  have hformat : ∀ c ∈ w.format.getD [], c.isFormat := by
    cases hsome : w.format with
    | none => exact List.forall_mem_nil _
    | some format =>
      exact fun c hc => (isFormatPoint_iff.mp (h.format_isFormat format hsome c hc)).2
  rw [readProperty_legible h.legible, mapM_readAlignment_text h hconv.alignment_length,
    checkAll_eq_ok_iff.mpr hformat, ok_bind, ok_bind]
  unfold Written.hole
  by_cases hdigits : w.name.all CodePoint.isAsciiDigit = true
  · have hlimit := hconv.name_length (List.all_eq_true.mp hdigits)
    rw [if_pos hdigits, if_pos hdigits, readNumeral_eq_ok_iff.mpr ⟨hlimit, rfl⟩]
    rfl
  · rw [if_neg hdigits, if_neg hdigits]
    rfl

/-- What is read as an alignment, if anything is, is a sign and a number. -/
theorem mapM_readAlignment_eq_ok {commaAt : Nat} {text : Option Text} {alignment : Option Alignment}
    (h : text.mapM (readAlignment commaAt) = .ok alignment) :
    ∃ part : Option (Bool × Text), text = part.map (fun part => alignmentText part.1 part.2) ∧
      (∀ found, part = some found → IsNumeral found.2 ∧ found.2.length ≤ Text.digitLimit) ∧
      alignment = part.map fun part => ⟨part.2.decimalValue, part.1⟩ := by
  cases text with
  | none =>
    cases h
    exact ⟨none, rfl, nofun, rfl⟩
  | some text =>
    rw [Option.mapM_some] at h
    obtain ⟨found, hfound, hsome⟩ := bind_eq_ok h
    cases hsome
    obtain ⟨digits, htext, hnumeral, hlimit, hvalue⟩ := readAlignment_eq_ok hfound
    refine ⟨some (found.isLeft, digits), by rw [htext]; rfl, ?_, by rw [Option.map_some, ← hvalue]⟩
    intro part hpart
    cases hpart
    exact ⟨hnumeral, hlimit⟩

/-- A text is written from its own label, alignment and format. -/
theorem text_of_body {body : Text} {part : Option (Bool × Text)}
    (hpart : (body.before ':').after? ',' = part.map fun part => alignmentText part.1 part.2) :
    Written.text ⟨readCapture ((body.before ':').before ','),
      if readCapture ((body.before ':').before ',') ≠ .plain then
        ((body.before ':').before ',').tail else (body.before ':').before ',',
      part, body.after? ':'⟩ = body := by
  unfold Written.text Written.front Written.label
  dsimp only
  rw [hint_append_name, ← hpart, Text.before_append_marked, Text.before_append_marked]

/-- What is read as a property is written from valid parts with short numbers, and the
property has these parts. -/
theorem readProperty_eq_ok {start : Nat} {body : Text} {hole : Property}
    (hbody : CodePoint.ofChar '}' ∉ body) (h : readProperty start body = .ok hole) :
    ∃ w : Written, w.Valid ∧ w.Convertible ∧ w.text = body ∧ w.hole start = hole := by
  unfold readProperty at h
  dsimp only at h
  obtain ⟨_, hname, h⟩ := bind_eq_ok h
  obtain ⟨alignment, halign, h⟩ := bind_eq_ok h
  obtain ⟨_, hformat, h⟩ := bind_eq_ok h
  obtain ⟨part, hpart, hnumeral, rfl⟩ := mapM_readAlignment_eq_ok halign
  have htext := text_of_body hpart
  simp only [decide_eq_true_eq] at hname h
  generalize (if readCapture ((body.before ':').before ',') ≠ .plain then
    List.tail ((body.before ':').before ',') else (body.before ':').before ',') = name
    at hname htext h
  obtain ⟨hne, hword⟩ := readName_eq_ok_iff.mp hname
  have hvalid : Written.Valid ⟨readCapture ((body.before ':').before ','), name, part,
      body.after? ':'⟩ := by
    refine ⟨hne, hword, fun found hfound => (hnumeral found hfound).1, ?_⟩
    intro format hsome c hc
    dsimp only at hsome
    rw [hsome] at hformat
    refine isFormatPoint_iff.mpr ⟨?_, checkAll_eq_ok_iff.mp hformat c hc⟩
    rintro rfl
    refine hbody ?_
    rw [← Text.before_append_marked ':' body, hsome]
    exact List.mem_append_right _ (List.mem_cons_of_mem _ hc)
  by_cases hdigits : List.all name CodePoint.isAsciiDigit = true
  · rw [if_pos hdigits] at h
    obtain ⟨index, hindex, h⟩ := bind_eq_ok h
    obtain ⟨number, hnumber, hsome⟩ := map_eq_ok hindex
    cases hsome
    cases h
    obtain ⟨hlimit, rfl⟩ := readNumeral_eq_ok_iff.mp hnumber
    refine ⟨_, hvalid, ⟨fun _ => hlimit, fun found hfound => (hnumeral found hfound).2⟩,
      htext, ?_⟩
    rw [Written.hole, htext]
    dsimp only
    rw [if_pos hdigits]
  · rw [if_neg hdigits] at h
    cases h
    refine ⟨_, hvalid, ⟨fun hall => absurd (List.all_eq_true.mpr hall) hdigits,
      fun found hfound => (hnumeral found hfound).2⟩, htext, ?_⟩
    rw [Written.hole, htext]
    dsimp only
    rw [if_neg hdigits]

end TemplateLint.Template
