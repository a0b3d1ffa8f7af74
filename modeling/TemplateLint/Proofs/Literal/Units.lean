import Mathlib.Data.List.Basic
import Mathlib.Data.List.TakeWhile
import TemplateLint.Literal.Value
import TemplateLint.Proofs.Basic

/-!
# Units of string literals

The content of a literal is a sequence of units, each of which spells one code point
of the value: a code point that stands for itself, an escape, or a doubled quote. A
short numeric escape takes as many digits as it can, so whether a text is a unit may
depend on what follows it. The main statement says that a literal has a value exactly
when its content is such a sequence between the opener and a closing quote.
-/

namespace TemplateLint.Literal

/-- An escape without its backslash, the code point that it denotes, and what follows it. -/
inductive IsEscape : Text → CodePoint → Text → Prop
  /-- A single code point with a meaning of its own. -/
  | simple {kind c : CodePoint} {rest : Text} (hkind : simpleEscape? kind = some c) :
    IsEscape [kind] c rest
  /-- One to four digits after `x`; fewer than four end before something else. -/
  | greedy {digits : Text} {c : CodePoint} {rest : Text} (hne : digits ≠ [])
    (hlength : digits.length ≤ 4) (hhex : ∀ d ∈ digits, d.isHexDigit)
    (hstop : digits.length = 4 ∨ ∀ d, rest.head? = some d → ¬ d.isHexDigit)
    (hvalue : CodePoint.ofNat? (Text.hexValue digits) = some c) : IsEscape ('x' :: digits) c rest
  /-- Four digits after `u`, or eight after `U`. -/
  | fixed {kind : CodePoint} {digits : Text} {c : CodePoint} {rest : Text}
    (hkind : kind = 'u' ∧ digits.length = 4 ∨ kind = 'U' ∧ digits.length = 8)
    (hhex : ∀ d ∈ digits, d.isHexDigit)
    (hvalue : CodePoint.ofNat? (Text.hexValue digits) = some c) : IsEscape (kind :: digits) c rest

/-- A unit of a content: its source, the code point that it spells, and what follows it. -/
inductive IsUnit : Bool → Text → CodePoint → Text → Prop
  /-- Everything but a backslash stands for itself. -/
  | plain {c : CodePoint} {rest : Text} (hc : c ≠ '\\') : IsUnit false [c] c rest
  /-- A backslash starts an escape. -/
  | escape {text : Text} {c : CodePoint} {rest : Text} (h : IsEscape text c rest) :
    IsUnit false ('\\' :: text) c rest
  /-- In a verbatim content everything but a quote stands for itself. -/
  | verbatim {c : CodePoint} {rest : Text} (hc : c ≠ '"') : IsUnit true [c] c rest
  /-- A doubled quote of a verbatim content. -/
  | doubled {rest : Text} : IsUnit true ['"', '"'] '"' rest
  /-- A quote at the very end of a verbatim content pairs with the closing one. -/
  | last : IsUnit true ['"'] '"' []

/-- A unit and what it spells. -/
structure ContentUnit where
  /-- Code points of the unit in the source. -/
  source : Text
  /-- The code point of the value. -/
  value : CodePoint

/-- Source of consecutive units. -/
def sources (units : List ContentUnit) : Text :=
  units.flatMap ContentUnit.source

/-- What consecutive units spell. -/
def values (units : List ContentUnit) : Text :=
  units.map ContentUnit.value

/-- Consecutive units, each read with the later ones behind it. -/
inductive Spelled (isVerbatim : Bool) : List ContentUnit → Prop
  /-- The empty content. -/
  | nil : Spelled isVerbatim []
  /-- A unit in front of others. -/
  | cons {unit : ContentUnit} {units : List ContentUnit}
    (hunit : IsUnit isVerbatim unit.source unit.value (sources units))
    (hunits : Spelled isVerbatim units) : Spelled isVerbatim (unit :: units)

/-- The source of a first unit comes in front. -/
theorem sources_cons (unit : ContentUnit) (units : List ContentUnit) :
    sources (unit :: units) = unit.source ++ sources units := by
  rw [sources, List.flatMap_cons]
  rfl

/-- The units before and after a cut give the whole source. -/
theorem sources_take_append (units : List ContentUnit) (count : Nat) :
    sources (units.take count) ++ sources (units.drop count) = sources units := by
  rw [sources, sources, ← List.flatMap_append, List.take_append_drop]
  rfl

/-- Every unit spells one code point. -/
theorem length_values (units : List ContentUnit) : (values units).length = units.length :=
  List.length_map _

/-- A unit takes at least one code point. -/
theorem IsUnit.source_ne_nil {isVerbatim : Bool} {text rest : Text} {c : CodePoint}
    (h : IsUnit isVerbatim text c rest) : text ≠ [] := by
  cases h <;> exact List.cons_ne_nil _ _

/-- Units that are there leave some source. -/
theorem sources_ne_nil {isVerbatim : Bool} {units : List ContentUnit}
    (h : Spelled isVerbatim units) (hne : units ≠ []) : sources units ≠ [] := by
  cases h with
  | nil => exact absurd rfl hne
  | cons hunit _ =>
    rw [sources_cons]
    exact List.append_ne_nil_of_left_ne_nil hunit.source_ne_nil _

/-- A unit stays one when the end of what follows it is cut off: the only thing that it may
ask of what follows is that no digit comes next, or that nothing comes. -/
theorem IsUnit.shorten {isVerbatim : Bool} {text rest more : Text} {c : CodePoint}
    (h : IsUnit isVerbatim text c (rest ++ more)) : IsUnit isVerbatim text c rest := by
  have hhead : ∀ d, rest.head? = some d → (rest ++ more).head? = some d := by
    intro d hd
    cases rest with
    | nil => cases hd
    | cons e rest => exact hd
  generalize hwhole : rest ++ more = whole at h
  rw [hwhole] at hhead
  cases h with
  | plain hc => exact .plain hc
  | escape hescape =>
    refine .escape ?_
    cases hescape with
    | simple hkind => exact .simple hkind
    | greedy hne hlength hhex hstop hvalue =>
      exact .greedy hne hlength hhex (hstop.imp id fun hstop d hd => hstop d (hhead d hd)) hvalue
    | fixed hkind hhex hvalue => exact .fixed hkind hhex hvalue
  | verbatim hc => exact .verbatim hc
  | doubled => exact .doubled
  | last =>
    rw [(List.append_eq_nil_iff.mp hwhole).1]
    exact .last

/-- Later units can be read without the earlier ones. -/
theorem Spelled.drop {isVerbatim : Bool} {units : List ContentUnit} (h : Spelled isVerbatim units)
    (count : Nat) : Spelled isVerbatim (units.drop count) := by
  induction h generalizing count with
  | nil => rw [List.drop_nil]; exact .nil
  | cons hunit hunits ih =>
    cases count with
    | zero => exact .cons hunit hunits
    | succ count => exact ih count

/-- Earlier units can be read without the later ones. -/
theorem Spelled.take {isVerbatim : Bool} {units : List ContentUnit} (h : Spelled isVerbatim units)
    (count : Nat) : Spelled isVerbatim (units.take count) := by
  induction h generalizing count with
  | nil => rw [List.take_nil]; exact .nil
  | @cons unit units hunit _ ih =>
    cases count with
    | zero => exact .nil
    | succ count =>
      rw [← sources_take_append units count] at hunit
      exact .cons hunit.shorten (ih count)

/-- Skipping code points is dropping them. -/
theorem regularValue_skip (skip : Nat) (content : Text) :
    regularValue skip content = regularValue 0 (content.drop skip) := by
  induction content generalizing skip with
  | nil =>
    rw [List.drop_nil]
    rfl
  | cons c rest ih =>
    cases skip with
    | zero => rfl
    | succ skip =>
      rw [List.drop_succ_cons, ← ih skip]
      rfl

/-- A short numeric escape reads exactly its own digits. -/
theorem takeWhile_hex_greedy {digits rest : Text} (hlength : digits.length ≤ 4)
    (hhex : ∀ d ∈ digits, d.isHexDigit)
    (hstop : digits.length = 4 ∨ ∀ d, rest.head? = some d → ¬ d.isHexDigit) :
    ((digits ++ rest).take 4).takeWhile CodePoint.isHexDigit = digits := by
  rw [List.take_append, List.take_of_length_le hlength, List.takeWhile_append_of_pos hhex]
  have hnone : (rest.take (4 - digits.length)).takeWhile CodePoint.isHexDigit = [] := by
    rcases hstop with hfour | hstop
    · rw [hfour]
      rfl
    · cases rest with
      | nil => rw [List.take_nil]; rfl
      | cons d rest =>
        cases hroom : 4 - digits.length with
        | zero => rfl
        | succ room =>
          rw [List.take_succ_cons]
          exact List.takeWhile_cons_of_neg (hstop d rfl)
  rw [hnone, List.append_nil]

/-- An escape is read with its value and its width. -/
theorem readEscape_append {text rest : Text} {c : CodePoint} (h : IsEscape text c rest) :
    readEscape (text ++ rest) = .ok (c, text.length) := by
  cases h with
  | simple hkind =>
    simp only [readEscape, List.singleton_append, hkind]
    rfl
  | @greedy digits _ _ hne hlength hhex hstop hvalue =>
    have hdigits : numericDigits? 'x' (digits ++ rest) = some (.ok digits) := by
      rw [numericDigits?, if_pos rfl]
      dsimp only
      rw [takeWhile_hex_greedy hlength hhex hstop, if_neg hne]
    have hsimple : simpleEscape? 'x' = none := by decide
    simp only [readEscape, List.cons_append, hsimple, hdigits, hvalue, List.length_cons]
  | @fixed kind digits _ _ hkind hhex hvalue =>
    have hall : digits.all CodePoint.isHexDigit = true := List.all_eq_true.mpr hhex
    have hsimple : simpleEscape? kind = none := by
      rcases hkind with ⟨rfl, -⟩ | ⟨rfl, -⟩ <;> decide
    have hdigits : numericDigits? kind (digits ++ rest) = some (.ok digits) := by
      have hnotx : kind ≠ 'x' := by rcases hkind with ⟨rfl, -⟩ | ⟨rfl, -⟩ <;> decide
      have hlong : kind = 'u' ∨ kind = 'U' := hkind.imp And.left And.left
      have hneed : (if kind = 'u' then 4 else 8) = digits.length := by
        rcases hkind with ⟨rfl, hlen⟩ | ⟨rfl, hlen⟩ <;> rw [hlen] <;> rfl
      rw [numericDigits?, if_neg hnotx, if_pos hlong]
      dsimp only
      rw [hneed, List.take_left, if_neg (Nat.lt_irrefl _), if_pos hall]
    simp only [readEscape, List.cons_append, hsimple, hdigits, hvalue, List.length_cons]

/-- After fewer than four digits no further digit follows. -/
theorem head_after_greedy {rest : Text} {d : CodePoint}
    (hlength : ((rest.take 4).takeWhile CodePoint.isHexDigit).length ≠ 4)
    (hd : ((rest.take 4).dropWhile CodePoint.isHexDigit ++ rest.drop 4).head? = some d) :
    ¬ d.isHexDigit := by
  cases hleft : (rest.take 4).dropWhile CodePoint.isHexDigit with
  | nil =>
    have hall := List.takeWhile_append_dropWhile (p := CodePoint.isHexDigit) (l := rest.take 4)
    rw [hleft, List.append_nil] at hall
    rw [hall, List.length_take] at hlength
    have hnil : rest.drop 4 = [] := List.drop_eq_nil_of_le (by omega)
    rw [hleft, hnil] at hd
    cases hd
  | cons e left =>
    have hnot := List.head?_dropWhile_not CodePoint.isHexDigit (rest.take 4)
    rw [hleft] at hnot hd
    cases hd
    simpa using hnot

/-- The digits of a numeric escape stand in front, are digits, and are as many as its kind
asks for. -/
theorem numericDigits?_eq_ok {kind : CodePoint} {rest digits : Text}
    (h : numericDigits? kind rest = some (.ok digits)) :
    ∃ more, rest = digits ++ more ∧ (∀ d ∈ digits, d.isHexDigit) ∧
      ((kind = 'x' ∧ digits ≠ [] ∧ digits.length ≤ 4 ∧
          (digits.length = 4 ∨ ∀ d, more.head? = some d → ¬ d.isHexDigit)) ∨
        kind = 'u' ∧ digits.length = 4 ∨ kind = 'U' ∧ digits.length = 8) := by
  unfold numericDigits? at h
  by_cases hx : kind = 'x'
  · rw [if_pos hx] at h
    dsimp only at h
    split at h
    · cases h
    · next hne =>
      cases h
      have hsplit : (rest.take 4).takeWhile CodePoint.isHexDigit ++
          ((rest.take 4).dropWhile CodePoint.isHexDigit ++ rest.drop 4) = rest := by
        rw [← List.append_assoc, List.takeWhile_append_dropWhile, List.take_append_drop]
      have hle : ((rest.take 4).takeWhile CodePoint.isHexDigit).length ≤ 4 :=
        Nat.le_trans (List.takeWhile_prefix _).length_le (List.length_take_le _ _)
      refine ⟨_, hsplit.symm, fun d hd => List.mem_takeWhile_imp hd, Or.inl ⟨hx, hne, hle, ?_⟩⟩
      by_cases hfour : ((rest.take 4).takeWhile CodePoint.isHexDigit).length = 4
      · exact Or.inl hfour
      · exact Or.inr fun d hd => head_after_greedy hfour hd
  · rw [if_neg hx] at h
    by_cases hlong : kind = 'u' ∨ kind = 'U'
    · rw [if_pos hlong] at h
      dsimp only at h
      generalize hneed : (if kind = 'u' then 4 else 8) = need at h
      split at h
      · cases h
      · next hlength =>
        split at h
        · next hall =>
          cases h
          have hle := List.length_take_le need rest
          have hcount : (rest.take need).length = need := by omega
          refine ⟨rest.drop need, (List.take_append_drop _ _).symm, List.all_eq_true.mp hall,
            Or.inr ?_⟩
          rcases hlong with rfl | rfl
          · exact Or.inl ⟨rfl, hcount.trans hneed.symm⟩
          · exact Or.inr ⟨rfl, hcount.trans hneed.symm⟩
        · cases h
    · rw [if_neg hlong] at h
      cases h

/-- What is read as an escape is one. -/
theorem isEscape_of_readEscape {rest : Text} {c : CodePoint} {width : Nat}
    (h : readEscape rest = .ok (c, width)) :
    ∃ text more, rest = text ++ more ∧ text.length = width ∧ IsEscape text c more := by
  unfold readEscape at h
  split at h
  · cases h
  · next kind more =>
    split at h
    · next hsimple =>
      cases h
      exact ⟨[kind], more, rfl, rfl, .simple hsimple⟩
    · split at h
      · cases h
      · cases h
      · next digits hdigits =>
        split at h
        · cases h
        · next hvalue =>
          cases h
          obtain ⟨later, rfl, hhex, hkind⟩ := numericDigits?_eq_ok hdigits
          refine ⟨kind :: digits, later, rfl, rfl, ?_⟩
          rcases hkind with ⟨rfl, hne, hlength, hstop⟩ | hkind
          · exact .greedy hne hlength hhex hstop hvalue
          · exact .fixed hkind hhex hvalue

/-- The value of a regular content is spelled by units. -/
theorem spelled_of_regularValue {content value : Text} {skip : Nat}
    (h : regularValue skip content = .ok value) :
    ∃ units, Spelled false units ∧ sources units = content.drop skip ∧ values units = value := by
  induction content generalizing skip value with
  | nil =>
    cases h
    exact ⟨[], .nil, List.drop_nil.symm, rfl⟩
  | cons c rest ih =>
    cases skip with
    | succ skip => exact ih h
    | zero =>
      rw [regularValue] at h
      split at h
      · next hc =>
        split at h
        · cases h
        · next first width hescape =>
          obtain ⟨later, hlater, rfl⟩ := Outcome.map_eq_ok h
          obtain ⟨units, hspelled, hsources, rfl⟩ := ih hlater
          obtain ⟨text, more, rfl, rfl, hisEscape⟩ := isEscape_of_readEscape hescape
          rw [List.drop_left] at hsources
          subst hsources
          exact ⟨⟨'\\' :: text, first⟩ :: units, .cons (.escape hisEscape) hspelled,
            by rw [hc, sources_cons]; rfl, rfl⟩
      · next hc =>
        obtain ⟨later, hlater, rfl⟩ := Outcome.map_eq_ok h
        obtain ⟨units, hspelled, hsources, rfl⟩ := ih hlater
        refine ⟨⟨[c], c⟩ :: units, .cons (.plain hc) hspelled, ?_, rfl⟩
        rw [sources_cons, hsources]
        rfl

/-- Regular units have the value that they spell. -/
theorem regularValue_sources {units : List ContentUnit} (h : Spelled false units) :
    regularValue 0 (sources units) = .ok (values units) := by
  induction h with
  | nil => rfl
  | @cons unit units hunit _ ih =>
    obtain ⟨source, value⟩ := unit
    dsimp only at hunit
    cases hunit with
    | plain hc =>
      rw [sources_cons, List.singleton_append, regularValue, if_neg hc, ih]
      rfl
    | @escape text _ _ hescape =>
      rw [sources_cons, List.cons_append, regularValue, if_pos rfl, readEscape_append hescape]
      dsimp only
      rw [regularValue_skip, List.drop_left, ih]
      rfl

/-- The value of a verbatim content is spelled by units. -/
theorem spelled_of_verbatimValue {content value : Text} (h : verbatimValue content = .ok value) :
    ∃ units, Spelled true units ∧ sources units = content ∧ values units = value := by
  fun_induction verbatimValue content generalizing value with
  | case1 =>
    cases h
    exact ⟨[], .nil, rfl, rfl⟩
  | case2 c =>
    cases h
    by_cases hc : c = '"'
    · exact ⟨[⟨[c], c⟩], .cons (hc ▸ .last) .nil, rfl, rfl⟩
    · exact ⟨[⟨[c], c⟩], .cons (.verbatim hc) .nil, rfl, rfl⟩
  | case3 rest ih =>
    obtain ⟨later, hlater, rfl⟩ := Outcome.map_eq_ok h
    obtain ⟨units, hspelled, hsources, rfl⟩ := ih hlater
    refine ⟨⟨['"', '"'], '"'⟩ :: units, .cons .doubled hspelled, ?_, rfl⟩
    rw [sources_cons, hsources]
    rfl
  | case4 => cases h
  | case5 c d rest hc ih =>
    obtain ⟨later, hlater, rfl⟩ := Outcome.map_eq_ok h
    obtain ⟨units, hspelled, hsources, rfl⟩ := ih hlater
    refine ⟨⟨[c], c⟩ :: units, .cons (.verbatim hc) hspelled, ?_, rfl⟩
    rw [sources_cons, hsources]
    rfl

/-- In a verbatim content everything but a quote stands for itself. -/
theorem verbatimValue_cons {c : CodePoint} (hc : c ≠ '"') (rest : Text) :
    verbatimValue (c :: rest) = (verbatimValue rest).map (c :: ·) := by
  cases rest with
  | nil => rfl
  | cons d rest => rw [verbatimValue, if_neg hc]

/-- Verbatim units have the value that they spell. -/
theorem verbatimValue_sources {units : List ContentUnit} (h : Spelled true units) :
    verbatimValue (sources units) = .ok (values units) := by
  induction h with
  | nil => rfl
  | @cons unit units hunit _ ih =>
    obtain ⟨source, value⟩ := unit
    generalize hrest : sources units = rest at hunit
    dsimp only at hunit
    cases hunit with
    | verbatim hc =>
      rw [sources_cons, List.singleton_append, verbatimValue_cons hc, ih]
      rfl
    | doubled =>
      rw [sources_cons, List.cons_append, List.singleton_append, verbatimValue, if_pos rfl,
        if_pos rfl, ih]
      rfl
    | last =>
      rw [hrest] at ih
      cases hvalues : values units with
      | nil =>
        rw [sources_cons, hrest, values, List.map_cons, ← values, hvalues]
        rfl
      | cons c later =>
        rw [hvalues] at ih
        cases ih

/-- A content between the opener of a literal and a closing quote. -/
def enclose (lit : Literal) (body : Text) : Text :=
  lit.opener ++ (body ++ [CodePoint.ofChar '"'])

/-- The content starts after the opener. -/
theorem opener_length (lit : Literal) : lit.opener.length = lit.contentStart := by
  unfold opener contentStart
  split <;> rfl

/-- An enclosed content is a literal of the same kind. -/
theorem ofSource_enclose (lit : Literal) (body : Text) :
    ofSource (lit.enclose body) = ⟨lit.enclose body, lit.isVerbatim⟩ := by
  have hhead : (lit.enclose body).head? = some (CodePoint.ofChar '@') ↔ lit.isVerbatim = true := by
    unfold enclose opener
    cases lit.isVerbatim with
    | false => exact ⟨nofun, nofun⟩
    | true => exact ⟨fun _ => rfl, fun _ => rfl⟩
  rw [ofSource]
  simp only [hhead, Bool.decide_eq_true]

/-- Opener, content and quote together. -/
theorem length_enclose (lit : Literal) (body : Text) :
    (lit.enclose body).length = lit.contentStart + body.length + 1 := by
  rw [enclose, List.length_append, List.length_append, opener_length]
  rfl

/-- An enclosed content ends at the closing quote. -/
theorem contentEnd_of_enclose {lit : Literal} {body : Text} (h : lit.source = lit.enclose body) :
    lit.contentEnd = lit.contentStart + body.length := by
  have hlength := length_enclose lit body
  have hlast : lit.source.getLast? = some (CodePoint.ofChar '"') := by
    rw [h, enclose, ← List.append_assoc, List.getLast?_append, List.getLast?_singleton]
    rfl
  rw [← h] at hlength
  rw [contentEnd, if_pos ⟨by omega, hlast⟩]
  omega

/-- An enclosed content is the content. -/
theorem content_of_enclose {lit : Literal} {body : Text} (h : lit.source = lit.enclose body) :
    lit.content = body := by
  rw [content, Text.slice, contentEnd_of_enclose h, h, enclose, ← opener_length, List.drop_left,
    Nat.add_sub_cancel_left, List.take_left]

/-- A token is quoted exactly when it encloses a content. -/
theorem quoted_iff (lit : Literal) :
    (Text.startsWith lit.source lit.opener ∧ lit.opener.length < lit.source.length ∧
      lit.source.getLast? = some (CodePoint.ofChar '"')) ↔
      ∃ body, lit.source = lit.enclose body := by
  constructor
  · rintro ⟨hstart, hlength, hlast⟩
    obtain ⟨rest, hrest⟩ := List.isPrefixOf_iff_prefix.mp hstart
    rcases List.eq_nil_or_concat' rest with rfl | ⟨body, last, rfl⟩
    · rw [← hrest, List.append_nil] at hlength
      omega
    · rw [← hrest, ← List.append_assoc, List.getLast?_concat] at hlast
      cases hlast
      exact ⟨body, hrest.symm⟩
  · rintro ⟨body, hbody⟩
    have hlength := length_enclose lit body
    rw [← hbody] at hlength
    refine ⟨?_, ?_, ?_⟩
    · rw [hbody]
      exact List.isPrefixOf_iff_prefix.mpr (List.prefix_append _ _)
    · rw [opener_length]
      omega
    · rw [hbody, enclose, ← List.append_assoc, List.getLast?_append, List.getLast?_singleton]
      rfl

/-- A literal has a value exactly when its content is spelled by units. -/
theorem value_eq_ok_iff {lit : Literal} {value : Text} :
    lit.value = .ok value ↔ ∃ units, Spelled lit.isVerbatim units ∧
      lit.source = lit.enclose (sources units) ∧ values units = value := by
  constructor
  · intro h
    unfold Literal.value at h
    split at h
    · next hquoted =>
      obtain ⟨body, hbody⟩ := (quoted_iff lit).mp hquoted
      rw [content_of_enclose hbody] at h
      split at h
      · next hverbatim =>
        obtain ⟨units, hspelled, rfl, hvalues⟩ := spelled_of_verbatimValue h
        exact ⟨units, hverbatim ▸ hspelled, hbody, hvalues⟩
      · next hregular =>
        obtain ⟨units, hspelled, rfl, hvalues⟩ := spelled_of_regularValue h
        exact ⟨units, eq_false_of_ne_true hregular ▸ hspelled, hbody, hvalues⟩
    · cases h
  · rintro ⟨units, hspelled, hsource, rfl⟩
    rw [Literal.value, if_pos ((quoted_iff lit).mpr ⟨_, hsource⟩), content_of_enclose hsource]
    split
    · next hverbatim =>
      rw [hverbatim] at hspelled
      exact verbatimValue_sources hspelled
    · next hregular =>
      rw [eq_false_of_ne_true hregular] at hspelled
      exact regularValue_sources hspelled

/-- A token is decoded to the value of its literal. -/
theorem decode_eq_ok_iff {raw value : Text} :
    decode raw = .ok value ↔ (ofSource raw).value = .ok value := by
  unfold decode
  cases (ofSource raw).value with
  | error fault => exact ⟨nofun, nofun⟩
  | ok found => exact ⟨fun h => by cases h; rfl, fun h => by cases h; rfl⟩

/-- Units between the opener and a quote are decoded to what they spell. -/
theorem decode_enclose (lit : Literal) {units : List ContentUnit}
    (h : Spelled lit.isVerbatim units) :
    decode (lit.enclose (sources units)) = .ok (values units) := by
  rw [decode_eq_ok_iff, ofSource_enclose]
  exact value_eq_ok_iff.mpr ⟨units, h, rfl, rfl⟩

end TemplateLint.Literal
