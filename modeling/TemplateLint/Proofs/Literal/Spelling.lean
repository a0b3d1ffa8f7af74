import Mathlib.Data.List.Induction
import Mathlib.Tactic.IntervalCases
import TemplateLint.Proofs.Literal.Units

/-!
# Spellings of values

How the values of literals are written, said by a table and a grammar and not by the
functions that decode them. Main statements: a regular token is decoded exactly when its
quotes enclose units of the grammar, one for each code point of the value; a verbatim token
is decoded exactly when its content is made of doubled quotes and of other code points, or
of these and one more quote at the end, which is taken together with the closing one. Every
other token is refused as malformed.
-/

namespace TemplateLint.Literal

/-- What may stand alone behind a backslash, and what the two denote together. -/
def escapeTable : List (CodePoint × CodePoint) :=
  [('\'', '\''), ('"', '"'), ('\\', '\\'), ('0', '\x00'), ('a', '\x07'), ('b', '\x08'),
    ('f', '\x0c'), ('n', '\n'), ('r', '\r'), ('t', '\t'), ('v', '\x0b')]

/-- A digit of base sixteen, in small or in capital letters, and its value. -/
def HexDigit (d : CodePoint) (value : Nat) : Prop :=
  (Text.ofString "0123456789abcdef")[value]? = some d ∨
    (Text.ofString "0123456789ABCDEF")[value]? = some d

/-- Digits and the number that they write in base sixteen. -/
inductive HexNumeral : Text → Nat → Prop
  /-- No digits write zero. -/
  | nil : HexNumeral [] 0
  /-- One more digit at the end. -/
  | snoc {digits : Text} {number value : Nat} {d : CodePoint} (h : HexNumeral digits number)
    (hd : HexDigit d value) : HexNumeral (digits ++ [d]) (16 * number + value)

/-- A unit of a regular content, the code point that it denotes, and what follows it. As code
points end at `10FFFF`, no unit denotes a larger number. -/
inductive RegularUnit : Text → CodePoint → Text → Prop
  /-- Everything but a backslash denotes itself. -/
  | plain {c : CodePoint} {rest : Text} (hc : c ≠ '\\') : RegularUnit [c] c rest
  /-- A backslash and an entry of the table. -/
  | simple {kind c : CodePoint} {rest : Text} (h : (kind, c) ∈ escapeTable) :
    RegularUnit ['\\', kind] c rest
  /-- One to four digits; fewer than four only if no digit follows. -/
  | greedy {digits : Text} {c : CodePoint} {rest : Text} (hne : digits ≠ [])
    (hlength : digits.length ≤ 4)
    (hstop : digits.length < 4 → ∀ d value, rest.head? = some d → ¬ HexDigit d value)
    (hnumber : HexNumeral digits c.val) : RegularUnit ('\\' :: 'x' :: digits) c rest
  /-- Exactly four digits. -/
  | short {digits : Text} {c : CodePoint} {rest : Text} (hlength : digits.length = 4)
    (hnumber : HexNumeral digits c.val) : RegularUnit ('\\' :: 'u' :: digits) c rest
  /-- Exactly eight digits. -/
  | long {digits : Text} {c : CodePoint} {rest : Text} (hlength : digits.length = 8)
    (hnumber : HexNumeral digits c.val) : RegularUnit ('\\' :: 'U' :: digits) c rest

/-- A unit of a verbatim content and the code point that it denotes. -/
inductive VerbatimUnit : Text → CodePoint → Prop
  /-- Everything but a quote denotes itself. -/
  | plain {c : CodePoint} (hc : c ≠ '"') : VerbatimUnit [c] c
  /-- A doubled quote denotes a single one. -/
  | doubled : VerbatimUnit ['"', '"'] '"'

/-- A content is cut into units, one for each code point of the value. Whether a part is a unit
may depend on what follows it. -/
inductive SplitsInto (unit : Text → CodePoint → Text → Prop) : Text → Text → Prop
  /-- The empty content. -/
  | nil : SplitsInto unit [] []
  /-- A unit in front of others. -/
  | cons {source rest value : Text} {c : CodePoint} (hunit : unit source c rest)
    (hrest : SplitsInto unit rest value) : SplitsInto unit (source ++ rest) (c :: value)

/-- How a verbatim content is read, and its value. -/
inductive ReadVerbatim : Text → Text → Prop
  /-- All quotes of the content are doubled. -/
  | whole {content value : Text} (h : SplitsInto (fun source c _ => VerbatimUnit source c)
      content value) : ReadVerbatim content value
  /-- One more quote at the end of the content makes a pair with the closing quote. -/
  | shared {content value : Text} (h : SplitsInto (fun source c _ => VerbatimUnit source c)
      content value) :
    ReadVerbatim (content ++ [CodePoint.ofChar '"']) (value ++ [CodePoint.ofChar '"'])

/-- The table says what the escapes of one code point denote. -/
theorem simpleEscape?_eq_some_iff {kind c : CodePoint} :
    simpleEscape? kind = some c ↔ (kind, c) ∈ escapeTable := by
  constructor
  · intro h
    unfold simpleEscape? at h
    split_ifs at h with hself
    · cases h
      rcases hself with rfl | rfl | rfl <;> decide
    all_goals
      subst_vars
      cases h
      decide
  · intro h
    simp only [escapeTable, List.mem_cons, Prod.mk.injEq, List.not_mem_nil, or_false] at h
    rcases h with h | h | h | h | h | h | h | h | h | h | h <;>
      · obtain ⟨rfl, rfl⟩ := h
        rfl

/-- A digit with a value is a hexadecimal digit, and its value is read from it. -/
theorem hexDigit_iff {d : CodePoint} {value : Nat} :
    HexDigit d value ↔ d.isHexDigit = true ∧ d.hexValue = value := by
  constructor
  · intro h
    have hlt : value < 16 := by
      rcases h with h | h <;> exact (List.getElem?_eq_some_iff.mp h).1
    interval_cases value <;>
      · rcases h with h | h <;>
          · cases h
            decide
  · rintro ⟨hdigit, rfl⟩
    obtain ⟨number, hnumber⟩ := d
    simp only [CodePoint.isHexDigit, CodePoint.isAsciiDigit, Bool.or_eq_true, Bool.and_eq_true,
      decide_eq_true_eq] at hdigit
    rcases hdigit with (⟨hlow, hhigh⟩ | ⟨hlow, hhigh⟩) | ⟨hlow, hhigh⟩
    · interval_cases number <;> exact Or.inl rfl
    · interval_cases number <;> exact Or.inl rfl
    · interval_cases number <;> exact Or.inr rfl

/-- A further digit moves the number by one place. -/
theorem hexValue_concat (digits : Text) (d : CodePoint) :
    Text.hexValue (digits ++ [d]) = 16 * Text.hexValue digits + d.hexValue := by
  simp only [Text.hexValue, List.foldl_append, List.foldl_cons, List.foldl_nil]

/-- Digits write the number that is computed from them. -/
theorem hexNumeral_iff {digits : Text} {number : Nat} :
    HexNumeral digits number ↔
      (∀ d ∈ digits, d.isHexDigit = true) ∧ Text.hexValue digits = number := by
  constructor
  · intro h
    induction h with
    | nil => exact ⟨nofun, rfl⟩
    | @snoc digits number value d _ hd ih =>
      obtain ⟨hdigit, rfl⟩ := hexDigit_iff.mp hd
      obtain ⟨hall, rfl⟩ := ih
      refine ⟨?_, hexValue_concat digits d⟩
      simpa [or_imp, forall_and] using And.intro hall hdigit
  · rintro ⟨hall, rfl⟩
    induction digits using List.reverseRecOn with
    | nil => exact .nil
    | append_singleton digits d ih =>
      have hfront := ih fun other hother => hall other (List.mem_append_left _ hother)
      have hlast := hall d (List.mem_append_right _ List.mem_cons_self)
      rw [hexValue_concat]
      exact .snoc hfront (hexDigit_iff.mpr ⟨hlast, rfl⟩)

/-- The code point with a number. -/
theorem ofNat?_eq_some_iff {number : Nat} {c : CodePoint} :
    CodePoint.ofNat? number = some c ↔ number = c.val := by
  unfold CodePoint.ofNat?
  constructor
  · intro h
    split at h
    · cases h
      rfl
    · cases h
  · rintro rfl
    rw [dif_pos c.isLt]

/-- The units that are read in a regular content are those of the grammar. -/
theorem isUnit_false_iff {source rest : Text} {c : CodePoint} :
    IsUnit false source c rest ↔ RegularUnit source c rest := by
  constructor
  · intro h
    cases h with
    | plain hc => exact .plain hc
    | escape hescape =>
      cases hescape with
      | simple hkind => exact .simple (simpleEscape?_eq_some_iff.mp hkind)
      | greedy hne hlength hhex hstop hvalue =>
        have hnumber := hexNumeral_iff.mpr ⟨hhex, ofNat?_eq_some_iff.mp hvalue⟩
        refine .greedy hne hlength (fun hfew d value hd hdigit => ?_) hnumber
        have hnone := hstop.resolve_left (Nat.ne_of_lt hfew) d hd
        exact hnone (hexDigit_iff.mp hdigit).1
      | fixed hkind hhex hvalue =>
        have hnumber := hexNumeral_iff.mpr ⟨hhex, ofNat?_eq_some_iff.mp hvalue⟩
        rcases hkind with ⟨rfl, hlength⟩ | ⟨rfl, hlength⟩
        · exact .short hlength hnumber
        · exact .long hlength hnumber
  · intro h
    cases h with
    | plain hc => exact .plain hc
    | simple hentry => exact .escape (.simple (simpleEscape?_eq_some_iff.mpr hentry))
    | @greedy digits _ _ hne hlength hstop hnumber =>
      obtain ⟨hhex, hvalue⟩ := hexNumeral_iff.mp hnumber
      refine .escape (.greedy hne hlength hhex ?_ (ofNat?_eq_some_iff.mpr hvalue))
      by_cases hfour : digits.length = 4
      · exact .inl hfour
      · refine .inr fun d hd hdigit => ?_
        exact hstop (by omega) d _ hd (hexDigit_iff.mpr ⟨hdigit, rfl⟩)
    | short hlength hnumber =>
      obtain ⟨hhex, hvalue⟩ := hexNumeral_iff.mp hnumber
      exact .escape (.fixed (.inl ⟨rfl, hlength⟩) hhex (ofNat?_eq_some_iff.mpr hvalue))
    | long hlength hnumber =>
      obtain ⟨hhex, hvalue⟩ := hexNumeral_iff.mp hnumber
      exact .escape (.fixed (.inr ⟨rfl, hlength⟩) hhex (ofNat?_eq_some_iff.mpr hvalue))

namespace SplitsInto

variable {unit other : Text → CodePoint → Text → Prop} {content value : Text}

/-- Units may be taken for units of another kind. -/
theorem mono (hunit : ∀ {source c rest}, unit source c rest → other source c rest)
    (h : SplitsInto unit content value) : SplitsInto other content value := by
  induction h with
  | nil => exact .nil
  | cons hfirst _ ih => exact .cons (hunit hfirst) ih

/-- The empty content has no units. -/
theorem value_eq_nil {isVerbatim : Bool} (h : SplitsInto (IsUnit isVerbatim) [] value) :
    value = [] := by
  generalize hcontent : ([] : Text) = content at h
  cases h with
  | nil => rfl
  | cons hunit _ => exact absurd (List.append_eq_nil_iff.mp hcontent.symm).1 hunit.source_ne_nil

end SplitsInto

/-- Consecutive units that are read cut a content into units, and the other way round. -/
theorem splitsInto_iff_exists_spelled {isVerbatim : Bool} {content value : Text} :
    SplitsInto (IsUnit isVerbatim) content value ↔
      ∃ units, Spelled isVerbatim units ∧ sources units = content ∧ values units = value := by
  constructor
  · intro h
    induction h with
    | nil => exact ⟨[], .nil, rfl, rfl⟩
    | @cons source rest value c hunit _ ih =>
      obtain ⟨units, hspelled, rfl, rfl⟩ := ih
      exact ⟨⟨source, c⟩ :: units, .cons hunit hspelled, sources_cons _ _, rfl⟩
  · rintro ⟨units, hspelled, rfl, rfl⟩
    induction hspelled with
    | nil => exact .nil
    | cons hunit _ ih =>
      rw [sources_cons]
      exact .cons hunit ih

/-- A literal has a value exactly when its content is cut into units that denote it. -/
theorem value_eq_ok_iff_splitsInto {lit : Literal} {value : Text} :
    lit.value = .ok value ↔ ∃ content, lit.source = lit.enclose content ∧
      SplitsInto (IsUnit lit.isVerbatim) content value := by
  rw [value_eq_ok_iff]
  constructor
  · rintro ⟨units, hspelled, hsource, hvalues⟩
    exact ⟨sources units, hsource,
      splitsInto_iff_exists_spelled.mpr ⟨units, hspelled, rfl, hvalues⟩⟩
  · rintro ⟨content, hsource, hsplits⟩
    obtain ⟨units, hspelled, rfl, hvalues⟩ := splitsInto_iff_exists_spelled.mp hsplits
    exact ⟨units, hspelled, hsource, hvalues⟩

/-- A token that is not decoded is refused as malformed. -/
theorem exists_failure_of_decode {raw : Text} (h : ∀ value, decode raw ≠ .ok value) :
    ∃ failure, decode raw = .error failure ∧
      failure.reason = Text.ofString "literal-malformed" ∧ failure.detail = some raw := by
  unfold decode at h ⊢
  cases hvalue : (ofSource raw).value with
  | error fault => exact ⟨fault.failure raw, rfl, rfl, rfl⟩
  | ok value =>
    rw [hvalue] at h
    exact absurd rfl (h value)

/-- Units of a verbatim content as they are read: a unit of the grammar, or a quote that ends the
content. -/
theorem isUnit_true_cases {source rest : Text} {c : CodePoint} (h : IsUnit true source c rest) :
    VerbatimUnit source c ∨
      source = [CodePoint.ofChar '"'] ∧ c = CodePoint.ofChar '"' ∧ rest = [] := by
  cases h with
  | verbatim hc => exact .inl (.plain hc)
  | doubled => exact .inl .doubled
  | last => exact .inr ⟨rfl, rfl, rfl⟩

/-- A unit of the grammar is read as one, whatever follows it. -/
theorem VerbatimUnit.isUnit {source : Text} {c : CodePoint} (h : VerbatimUnit source c)
    (rest : Text) : IsUnit true source c rest := by
  cases h with
  | plain hc => exact .verbatim hc
  | doubled => exact .doubled

/-- A verbatim content is read as the grammar says, but for a quote at its very end. -/
theorem splitsInto_isUnit_true_iff {content value : Text} :
    SplitsInto (IsUnit true) content value ↔ ReadVerbatim content value := by
  constructor
  · intro h
    induction h with
    | nil => exact .whole .nil
    | @cons source rest value c hunit hrest ih =>
      rcases isUnit_true_cases hunit with hgrammar | ⟨rfl, rfl, rfl⟩
      · cases ih with
        | whole hrest => exact .whole (.cons hgrammar hrest)
        | @shared front start hfront =>
          rw [← List.append_assoc]
          exact .shared (.cons hgrammar hfront)
      · rw [hrest.value_eq_nil]
        exact .shared .nil
  · intro h
    cases h with
    | whole hwhole => exact hwhole.mono fun hunit => hunit.isUnit _
    | shared hfront =>
      induction hfront with
      | nil =>
        have hquote : SplitsInto (IsUnit true) ([CodePoint.ofChar '"'] ++ []) _ :=
          .cons .last .nil
        exact hquote
      | cons hunit _ ih =>
        rw [List.append_assoc]
        exact .cons (hunit.isUnit _) ih

/-- A regular token is decoded exactly when its quotes enclose units of the grammar. -/
theorem decode_eq_ok_iff_regular {raw value : Text}
    (h : raw.head? ≠ some (CodePoint.ofChar '@')) :
    decode raw = .ok value ↔
      ∃ content : Text, raw = CodePoint.ofChar '"' :: (content ++ [CodePoint.ofChar '"']) ∧
        SplitsInto RegularUnit content value := by
  have hkind : ofSource raw = ⟨raw, false⟩ := by rw [ofSource, decide_eq_false h]
  rw [decode_eq_ok_iff, hkind, value_eq_ok_iff_splitsInto]
  constructor
  · rintro ⟨content, hraw, hsplits⟩
    exact ⟨content, hraw, hsplits.mono isUnit_false_iff.mp⟩
  · rintro ⟨content, hraw, hsplits⟩
    exact ⟨content, hraw, hsplits.mono isUnit_false_iff.mpr⟩

/-- A verbatim token is decoded exactly when it is read as the grammar says, but for a quote at
the very end of its content. -/
theorem decode_eq_ok_iff_verbatim {raw value : Text}
    (h : raw.head? = some (CodePoint.ofChar '@')) :
    decode raw = .ok value ↔
      ∃ content : Text, raw = CodePoint.ofChar '@' :: CodePoint.ofChar '"' ::
          (content ++ [CodePoint.ofChar '"']) ∧ ReadVerbatim content value := by
  have hkind : ofSource raw = ⟨raw, true⟩ := by rw [ofSource, decide_eq_true h]
  rw [decode_eq_ok_iff, hkind, value_eq_ok_iff_splitsInto]
  constructor
  · rintro ⟨content, hraw, hsplits⟩
    exact ⟨content, hraw, splitsInto_isUnit_true_iff.mp hsplits⟩
  · rintro ⟨content, hraw, hread⟩
    exact ⟨content, hraw, splitsInto_isUnit_true_iff.mpr hread⟩

/-- A regular token is decoded to a value exactly when its quotes enclose units of the grammar
that denote the code points of the value. Every other one is refused as malformed. -/
theorem regular_token_decoded_iff {raw : Text} (h : raw.head? ≠ some (CodePoint.ofChar '@')) :
    (∀ value, decode raw = .ok value ↔
      ∃ content : Text, raw = CodePoint.ofChar '"' :: (content ++ [CodePoint.ofChar '"']) ∧
        SplitsInto RegularUnit content value) ∧
    ((¬ ∃ content value : Text,
        raw = CodePoint.ofChar '"' :: (content ++ [CodePoint.ofChar '"']) ∧
          SplitsInto RegularUnit content value) →
      ∃ failure, decode raw = .error failure ∧
        failure.reason = Text.ofString "literal-malformed" ∧ failure.detail = some raw) := by
  refine ⟨fun value => decode_eq_ok_iff_regular h, fun hnone => ?_⟩
  refine exists_failure_of_decode fun value hvalue => hnone ?_
  obtain ⟨content, hraw, hsplits⟩ := (decode_eq_ok_iff_regular h).mp hvalue
  exact ⟨content, value, hraw, hsplits⟩

/-- A short numeric escape in front of a letter that is no digit, an escaped quote and a plain
one are units of a content. A token whose only escape takes the closing quote has no units. -/
theorem regular_token_decoded_iff_quotes :
    let raw : Text := "\"\\x4G\\\"\"\""
    let unclosed : Text := "\"\\\""
    (∃ content : Text, raw = CodePoint.ofChar '"' :: (content ++ [CodePoint.ofChar '"']) ∧
        SplitsInto RegularUnit content "\x04G\"\"") ∧
      ¬ ∃ content value : Text,
        unclosed = CodePoint.ofChar '"' :: (content ++ [CodePoint.ofChar '"']) ∧
          SplitsInto RegularUnit content value := by
  intro raw unclosed
  have hraw : raw.head? ≠ some (CodePoint.ofChar '@') := by decide
  have hunclosed : unclosed.head? ≠ some (CodePoint.ofChar '@') := by decide
  refine ⟨((regular_token_decoded_iff hraw).1 _).mp (by decide), ?_⟩
  rintro ⟨content, value, hsource, hsplits⟩
  have hvalue := ((regular_token_decoded_iff hunclosed).1 value).mpr ⟨content, hsource, hsplits⟩
  have hrefused : decode unclosed = .error ((Fault.unknownEscape none).failure unclosed) := by
    decide
  rw [hrefused] at hvalue
  cases hvalue

/-- A verbatim token is decoded to a value exactly when its content is made of doubled quotes and
of other code points, or of these and one more quote at the end, which the closing quote
completes. Every other one is refused as malformed. -/
theorem verbatim_token_decoded_iff {raw : Text} (h : raw.head? = some (CodePoint.ofChar '@')) :
    (∀ value, decode raw = .ok value ↔
      ∃ content : Text, raw = CodePoint.ofChar '@' :: CodePoint.ofChar '"' ::
          (content ++ [CodePoint.ofChar '"']) ∧ ReadVerbatim content value) ∧
    ((¬ ∃ content value : Text, raw = CodePoint.ofChar '@' :: CodePoint.ofChar '"' ::
          (content ++ [CodePoint.ofChar '"']) ∧ ReadVerbatim content value) →
      ∃ failure, decode raw = .error failure ∧
        failure.reason = Text.ofString "literal-malformed" ∧ failure.detail = some raw) := by
  refine ⟨fun value => decode_eq_ok_iff_verbatim h, fun hnone => ?_⟩
  refine exists_failure_of_decode fun value hvalue => hnone ?_
  obtain ⟨content, hraw, hread⟩ := (decode_eq_ok_iff_verbatim h).mp hvalue
  exact ⟨content, value, hraw, hread⟩

/-- Quotes that are doubled, one of the pairs in front of the closing quote, are decoded; a single
quote in the middle is refused. -/
theorem verbatim_token_decoded_iff_doubled :
    let raw : Text := "@\"a\"\"b\"\"\""
    let lone : Text := "@\"a\"b\""
    (∃ content : Text, raw = CodePoint.ofChar '@' :: CodePoint.ofChar '"' ::
          (content ++ [CodePoint.ofChar '"']) ∧ ReadVerbatim content "a\"b\"") ∧
      ¬ ∃ content value : Text, lone = CodePoint.ofChar '@' :: CodePoint.ofChar '"' ::
          (content ++ [CodePoint.ofChar '"']) ∧ ReadVerbatim content value := by
  intro raw lone
  have hraw : raw.head? = some (CodePoint.ofChar '@') := by decide
  have hlone : lone.head? = some (CodePoint.ofChar '@') := by decide
  refine ⟨((verbatim_token_decoded_iff hraw).1 _).mp (by decide), ?_⟩
  rintro ⟨content, value, hsource, hread⟩
  have hvalue := ((verbatim_token_decoded_iff hlone).1 value).mpr ⟨content, hsource, hread⟩
  have hrefused : decode lone = .error (Fault.loneQuote.failure lone) := by decide
  rw [hrefused] at hvalue
  cases hvalue

/-- A verbatim token whose content is a single quote is decoded to a quote. No pair of quotes
stands inside the content: the closing quote is taken for the other half of one. -/
theorem decode_shared_quote :
    let raw : Text := "@\"\"\""
    decode raw = .ok (Text.ofString "\"") ∧
      ¬ ∃ content value : Text, raw = CodePoint.ofChar '@' :: CodePoint.ofChar '"' ::
          (content ++ [CodePoint.ofChar '"']) ∧
        SplitsInto (fun source c _ => VerbatimUnit source c) content value := by
  intro raw
  refine ⟨by decide, ?_⟩
  rintro ⟨content, value, hraw, hsplits⟩
  have hcontent : [CodePoint.ofChar '"'] ++ [CodePoint.ofChar '"'] =
      content ++ [CodePoint.ofChar '"'] := (List.cons.inj (List.cons.inj hraw).2).2
  have hquote : [CodePoint.ofChar '"'] = content := List.append_cancel_right hcontent
  cases hsplits with
  | nil => cases hquote
  | cons hunit _ =>
    cases hunit with
    | plain hc => exact hc (List.cons.inj hquote).1.symm
    | doubled => cases (List.cons.inj hquote).2

end TemplateLint.Literal
