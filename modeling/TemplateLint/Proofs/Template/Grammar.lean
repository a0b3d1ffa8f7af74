import TemplateLint.Proofs.Template.Written

/-!
# The grammar of templates

A template is a sequence of doubled opening braces, single code points other than an
opening brace, and properties in braces. The parser reads from the left and looks for
one closing brace, one colon and one comma on their own; the main statement says that
it accepts exactly this grammar, as long as no number is too long to be converted. The
doubled closing braces of which the parser makes one are two single code points here.
-/

namespace TemplateLint.Template

open Outcome

/-- A piece of a template as it is written. -/
inductive IsPiece : Text → Prop
  /-- Two opening braces, which stand for one. -/
  | doubled : IsPiece ['{', '{']
  /-- Any code point but an opening brace. -/
  | single {c : CodePoint} (hc : c ≠ '{') : IsPiece [c]
  /-- A property. -/
  | property {w : Written} (h : w.Valid) : IsPiece (braced w.text)

/-- A text that consists of pieces. -/
def IsTemplate (t : Text) : Prop :=
  ∃ parts : List Text, (∀ part ∈ parts, IsPiece part) ∧ parts.flatten = t

/-- The empty text consists of no pieces. -/
theorem isTemplate_nil : IsTemplate [] :=
  ⟨[], List.forall_mem_nil _, rfl⟩

/-- A piece in front of pieces. -/
theorem IsPiece.append {part rest : Text} (h : IsPiece part) (hrest : IsTemplate rest) :
    IsTemplate (part ++ rest) := by
  obtain ⟨parts, hparts, rfl⟩ := hrest
  exact ⟨part :: parts, List.forall_mem_cons.mpr ⟨h, hparts⟩, List.flatten_cons⟩

/-- A template that is not empty starts with a piece. -/
theorem IsTemplate.split {t : Text} (h : IsTemplate t) (hne : t ≠ []) :
    ∃ part rest, IsPiece part ∧ IsTemplate rest ∧ t = part ++ rest := by
  obtain ⟨parts, hparts, rfl⟩ := h
  cases parts with
  | nil => exact absurd rfl hne
  | cons part parts =>
    obtain ⟨hpart, hparts⟩ := List.forall_mem_cons.mp hparts
    exact ⟨part, parts.flatten, hpart, ⟨parts, hparts, rfl⟩, List.flatten_cons⟩

/-- A code point that opens no brace may stand anywhere. -/
theorem isTemplate_single {c : CodePoint} (hc : c ≠ '{') (rest : Text) :
    IsTemplate (c :: rest) ↔ IsTemplate rest := by
  constructor
  · intro h
    obtain ⟨part, later, hpart, hlater, heq⟩ := h.split (List.cons_ne_nil _ _)
    cases hpart with
    | doubled => exact absurd (List.cons.inj heq).1 hc
    | single =>
      rw [(List.cons.inj heq).2]
      exact hlater
    | property => exact absurd (List.cons.inj heq).1 hc
  · intro h
    exact (IsPiece.single hc).append h

/-- Two opening braces may stand anywhere: no property starts with a brace. -/
theorem isTemplate_doubled (rest : Text) :
    IsTemplate ('{' :: '{' :: rest) ↔ IsTemplate rest := by
  constructor
  · intro h
    obtain ⟨part, later, hpart, hlater, heq⟩ := h.split (List.cons_ne_nil _ _)
    cases hpart with
    | doubled =>
      rw [(List.cons.inj (List.cons.inj heq).2).2]
      exact hlater
    | single hc => exact absurd (List.cons.inj heq).1.symm hc
    | @property w hw =>
      rw [braced_append] at heq
      have hhead := hw.legible.head_text (CodePoint.ofChar '}' :: later)
      rw [← (List.cons.inj heq).2] at hhead
      exact absurd rfl hhead
  · intro h
    exact IsPiece.doubled.append h

/-- A single opening brace opens a property. -/
theorem IsTemplate.property {rest : Text} (h : IsTemplate ('{' :: rest))
    (hhead : rest.head? ≠ some (CodePoint.ofChar '{')) :
    ∃ w : Written, ∃ tail, w.Valid ∧ IsTemplate tail ∧
      rest = w.text ++ CodePoint.ofChar '}' :: tail := by
  obtain ⟨part, tail, hpart, htail, heq⟩ := h.split (List.cons_ne_nil _ _)
  cases hpart with
  | doubled =>
    rw [(List.cons.inj heq).2] at hhead
    exact absurd rfl hhead
  | single hc => exact absurd (List.cons.inj heq).1.symm hc
  | @property w hw =>
    rw [braced_append] at heq
    exact ⟨w, tail, hw, htail, (List.cons.inj heq).2⟩

/-- No run of digits is too long to be converted. -/
def ShortRuns (t : Text) : Prop :=
  ∀ run, run <:+: t → (∀ c ∈ run, c.isAsciiDigit) → run.length ≤ Text.digitLimit

/-- A part of a text has no longer runs. -/
theorem ShortRuns.part {part t : Text} (h : ShortRuns t) (hpart : part <:+: t) :
    ShortRuns part :=
  fun run hrun => h run (hrun.trans hpart)

/-- Short runs make short numbers. -/
theorem Written.convertible_of_shortRuns {w : Written} (h : w.Valid) (hruns : ShortRuns w.text) :
    w.Convertible :=
  ⟨hruns w.name w.name_infix_text,
    fun part hpart =>
      hruns part.2 (digits_infix_text hpart) (h.alignment_isNumeral part hpart).isDigit⟩

/-- The pieces of a text can be read exactly when it consists of pieces. The cases are those
of the reading: the end, a doubled brace, a property without and with its closing brace,
a pair of closing braces, and any other code point. -/
theorem pieces_isOk_iff {start : Nat} {t : Text} (hruns : ShortRuns t) :
    (∃ found, pieces start t = .ok found) ↔ IsTemplate t := by
  fun_induction pieces start t with
  | case1 start => exact ⟨fun _ => isTemplate_nil, fun _ => ⟨[], rfl⟩⟩
  | case2 start rest hhead ih =>
    obtain ⟨rest, rfl⟩ := List.head?_eq_some_iff.mp hhead
    rw [exists_map_ok, isTemplate_doubled]
    exact ih (hruns.part ((List.suffix_cons _ rest).trans (List.suffix_cons _ _)).isInfix)
  | case3 start rest hhead hcut =>
    refine ⟨nofun, fun h => ?_⟩
    obtain ⟨w, tail, _, _, rfl⟩ := h.property hhead
    exact absurd (List.mem_append_right _ List.mem_cons_self) (Text.not_mem_of_cut?_eq_none hcut)
  | case4 start rest hhead body tail hcut ih =>
    have hbody := Text.not_mem_of_cut? hcut
    obtain rfl := Text.eq_of_cut? hcut
    have htail : ShortRuns tail := hruns.part ((List.suffix_cons _ tail).trans
      ((List.suffix_append _ _).trans (List.suffix_cons _ _))).isInfix
    constructor
    · rintro ⟨found, h⟩
      obtain ⟨hole, hhole, h⟩ := bind_eq_ok h
      obtain ⟨more, hmore, _⟩ := bind_eq_ok h
      obtain ⟨w, hvalid, _, rfl, _⟩ := readProperty_eq_ok hbody hhole
      rw [← braced_append]
      exact (IsPiece.property hvalid).append ((ih hole htail).mp ⟨more, hmore⟩)
    · intro h
      obtain ⟨w, later, hvalid, hlater, heq⟩ := h.property hhead
      have hfirst := Text.cut?_append (Written.brace_not_mem_text hvalid) later
      rw [← heq, hcut] at hfirst
      cases hfirst
      have hconv : w.Convertible := Written.convertible_of_shortRuns hvalid
        (hruns.part ((List.prefix_append _ _).isInfix.trans (List.suffix_cons _ _).isInfix))
      obtain ⟨more, hmore⟩ := (ih (w.hole start) htail).mpr hlater
      refine ⟨.property (w.hole start) :: more, ?_⟩
      rw [readProperty_text hvalid hconv, ok_bind, hmore]
      rfl
  | case5 start c rest hc hpair ih =>
    obtain ⟨rest, rfl⟩ := List.head?_eq_some_iff.mp hpair.2
    rw [exists_map_ok, isTemplate_single hc, isTemplate_single (by decide)]
    exact ih (hruns.part ((List.suffix_cons _ rest).trans (List.suffix_cons _ _)).isInfix)
  | case6 start c rest hc hpair ih =>
    rw [exists_map_ok, isTemplate_single hc]
    exact ih (hruns.part (List.suffix_cons c rest).isInfix)

/-- The parser accepts a text exactly when it is written by the grammar, provided that no
run of digits is too long to be converted. -/
theorem parse_accepts_iff_isTemplate {value : Text} (hruns : ShortRuns value) :
    (∃ segments, parse value = .ok segments) ↔ IsTemplate value := by
  rw [parse, exists_map_ok]
  exact pieces_isOk_iff hruns

/-- Three opening braces, an alignment, a format that holds a comma, a colon and an opening
brace, and three closing braces are accepted, so they are written by the grammar. A comma
without an alignment behind it is refused, so no pieces make it up. -/
theorem parse_accepts_iff_isTemplate_braces :
    let value : Text := "a\x7b\x7b\x7b@Name,-5:0,0:\x7b\x7d\x7d\x7d"
    let refused : Text := "a\x7bName,\x7d"
    ShortRuns value ∧ IsTemplate value ∧ ShortRuns refused ∧ ¬ IsTemplate refused := by
  intro value refused
  have hvalue : ShortRuns value := by
    intro run hrun _
    exact Nat.le_trans hrun.length_le (by decide)
  have hrefused : ShortRuns refused := by
    intro run hrun _
    exact Nat.le_trans hrun.length_le (by decide)
  have hread : (parse value).toOption.isSome = true := by decide +kernel
  have hfailed : (parse refused).toOption.isSome = false := by decide +kernel
  refine ⟨hvalue, (parse_accepts_iff_isTemplate hvalue).mp ?_, hrefused, fun h => ?_⟩
  · cases hparse : parse value with
    | ok segments => exact ⟨segments, rfl⟩
    | error failure =>
      rw [hparse] at hread
      cases hread
  · obtain ⟨segments, hparse⟩ := (parse_accepts_iff_isTemplate hrefused).mpr h
    rw [hparse] at hfailed
    cases hfailed

end TemplateLint.Template
