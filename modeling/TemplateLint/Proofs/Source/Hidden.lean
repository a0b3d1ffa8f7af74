import TemplateLint.Proofs.Source.Parsed

/-!
# Contents that masking hides

A comment or a literal that is complete is one region of the source, whatever its content is,
and what stands in front of it is cut into the same regions. Main statement: if a token stands
outside all comments and literals, the masked source does not depend on the content of the
token, but for its length and its line ends.
-/

namespace TemplateLint.Source

/-- The kinds of tokens whose content is blanked out. -/
inductive TokenKind
  /-- A literal between quotes, on one line. -/
  | regular (quote : CodePoint)
  /-- A verbatim literal. -/
  | verbatim
  /-- A comment up to the end of its line. -/
  | lineComment
  /-- A comment between its marks. -/
  | blockComment
  deriving DecidableEq

/-- The content of a regular literal on one line. -/
inductive RegularContent (quote : CodePoint) : Text → Prop
  /-- Nothing. -/
  | nil : RegularContent quote []
  /-- A code point that stands for itself comes first. -/
  | plain {c : CodePoint} {rest : Text} (hescape : c ≠ '\\') (hquote : c ≠ quote)
      (hline : c ≠ '\n') (hrest : RegularContent quote rest) : RegularContent quote (c :: rest)
  /-- A backslash comes first and takes the next code point with it. -/
  | escape {c : CodePoint} {rest : Text} (hline : c ≠ '\n') (hrest : RegularContent quote rest) :
    RegularContent quote ('\\' :: c :: rest)

/-- The content of a verbatim literal. -/
inductive VerbatimContent : Text → Prop
  /-- Nothing. -/
  | nil : VerbatimContent []
  /-- A code point other than a quote comes first. -/
  | plain {c : CodePoint} {rest : Text} (hquote : c ≠ '"') (hrest : VerbatimContent rest) :
    VerbatimContent (c :: rest)
  /-- A doubled quote comes first. -/
  | doubled {rest : Text} (hrest : VerbatimContent rest) : VerbatimContent ('"' :: '"' :: rest)

/-- A complete token of a kind. -/
inductive IsToken : TokenKind → Text → Prop
  /-- A content between quotes. -/
  | regular {quote : CodePoint} {content : Text} (hquote : isQuote quote = true)
      (hcontent : RegularContent quote content) :
    IsToken (.regular quote) (quote :: (content ++ [quote]))
  /-- A content between quotes, behind a sign. -/
  | verbatim {content : Text} (hcontent : VerbatimContent content) :
    IsToken .verbatim ('@' :: '"' :: (content ++ [CodePoint.ofChar '"']))
  /-- Two slashes, and what follows them on the line. -/
  | lineComment {content : Text} (hcontent : ∀ c ∈ content, c ≠ '\n') :
    IsToken .lineComment ('/' :: '/' :: content)
  /-- A content between marks, in which the closing mark does not occur. -/
  | blockComment {content : Text}
      (hcontent : ¬ [CodePoint.ofChar '*', CodePoint.ofChar '/'] <:+: content) :
    IsToken .blockComment
      ('/' :: '*' :: (content ++ [CodePoint.ofChar '*', CodePoint.ofChar '/']))

/-- What may follow a token of a kind: another quote would go on with a verbatim literal, and
everything but a line end with a comment up to the end of its line. -/
def TokenKind.MayPrecede : TokenKind → Text → Prop
  | .verbatim, next => next.head? ≠ some (CodePoint.ofChar '"')
  | .lineComment, next => ∀ c, next.head? = some c → c = '\n'
  | _, _ => True

/-- The region of a token. -/
def TokenKind.region : TokenKind → Text → Region
  | .regular quote, t => .literal [quote] t.tail
  | .verbatim, t => .literal ['@', '"'] (t.drop 2)
  | .lineComment, t => .lineComment t
  | .blockComment, t => .blockComment t

/-- The content of a regular literal is passed over up to the quote. -/
theorem RegularContent.regularLength_append {quote : CodePoint} {content : Text}
    (h : RegularContent quote content) (hquote : quote ≠ '\\') (next : Text) :
    regularLength quote (content ++ quote :: next) = content.length + 1 := by
  induction h with
  | nil => exact regularLength_close hquote next
  | @plain c rest hescape hne hline _ ih =>
    rw [List.cons_append, regularLength_skip hescape hne hline, ih, List.length_cons]
    omega
  | @escape c rest _ _ ih =>
    rw [List.cons_append, List.cons_append, regularLength.eq_def]
    dsimp only
    rw [if_pos rfl, ih, List.length_cons, List.length_cons]
    omega

/-- The content of a verbatim literal is passed over up to a quote that is not doubled. -/
theorem VerbatimContent.verbatimLength_append {content next : Text} (h : VerbatimContent content)
    (hnext : next.head? ≠ some (CodePoint.ofChar '"')) :
    verbatimLength (content ++ CodePoint.ofChar '"' :: next) = content.length + 1 := by
  induction h with
  | nil =>
    cases next with
    | nil => rfl
    | cons d next =>
      have hsingle : d ≠ '"' := fun hd => hnext (congrArg some hd)
      rw [List.nil_append, verbatimLength, if_pos rfl, if_neg hsingle]
      rfl
  | @plain c rest hquote _ ih =>
    rw [List.cons_append, verbatimLength_skip hquote, ih, List.length_cons]
    omega
  | @doubled rest _ ih =>
    rw [List.cons_append, List.cons_append, verbatimLength.eq_def]
    dsimp only
    rw [if_pos rfl, if_pos rfl, ih, List.length_cons, List.length_cons]
    omega

/-- The mark that ends a block comment is the first one in it. -/
theorem blockEnd?_content {content : Text}
    (h : ¬ [CodePoint.ofChar '*', CodePoint.ofChar '/'] <:+: content) :
    blockEnd? (content ++ [CodePoint.ofChar '*', CodePoint.ofChar '/']) =
      some (content.length + 2) := by
  induction content with
  | nil => rfl
  | cons c rest ih =>
    have hlater := ih fun hinfix => h (List.infix_cons hinfix)
    cases rest with
    | nil =>
      have hend : ¬ (c = '*' ∧ CodePoint.ofChar '*' = '/') := fun hmark => by cases hmark.2
      rw [List.nil_append] at hlater
      rw [List.cons_append, List.nil_append, blockEnd?, if_neg hend, hlater]
      rfl
    | cons d rest =>
      have hend : ¬ (c = '*' ∧ d = '/') := by
        rintro ⟨rfl, rfl⟩
        exact h ⟨[], rest, rfl⟩
      rw [List.cons_append] at hlater
      rw [List.cons_append, List.cons_append, blockEnd?, if_neg hend, hlater]
      rfl

namespace IsToken

variable {kind : TokenKind} {t t' next : Text}

/-- A token is the source of its region. -/
theorem source_region (h : IsToken kind t) : (kind.region t).source = t := by
  cases h <;> rfl

/-- A token is one region of the source. -/
theorem fits (h : IsToken kind t) (hnext : kind.MayPrecede next) : Fits (kind.region t) next := by
  cases h with
  | @regular quote content hquote hcontent =>
    have hlength := hcontent.regularLength_append (Opens.ne_of_isQuote hquote).1 next
    refine Fits.literal (Opens.regular hquote) ?_
    rw [List.tail_cons, List.append_assoc, List.singleton_append, hlength, List.length_append]
    rfl
  | @verbatim content hcontent =>
    have hlength := hcontent.verbatimLength_append hnext
    refine Fits.literal Opens.verbatim ?_
    rw [List.drop_succ_cons, List.drop_succ_cons, List.drop_zero, List.append_assoc,
      List.singleton_append, hlength, List.length_append]
    rfl
  | @lineComment content hcontent =>
    refine Fits.lineComment_iff.mpr ⟨⟨_, rfl, rfl, ?_⟩, hnext⟩
    exact List.forall_mem_cons.mpr ⟨by decide, hcontent⟩
  | @blockComment content hcontent =>
    have hend : blockEnd? (content ++ [CodePoint.ofChar '*', CodePoint.ofChar '/'] ++ []) =
        some (content ++ [CodePoint.ofChar '*', CodePoint.ofChar '/']).length := by
      rw [List.append_nil, blockEnd?_content hcontent, List.length_append]
      rfl
    exact Fits.blockComment hend next

/-- Tokens of one kind start alike, and a sign is followed by a quote in both. -/
theorem exists_head (h : IsToken kind t) (h' : IsToken kind t') :
    ∃ c rest rest', t = c :: rest ∧ t' = c :: rest' ∧
      (isMark c = true → c ≠ '"' → ∀ next : Text,
        (rest ++ next).head? = some (CodePoint.ofChar '"')) := by
  cases h with
  | @regular quote content hquote _ =>
    cases h' with
    | @regular _ content' _ _ =>
      refine ⟨quote, _, _, rfl, rfl, fun hmark hne => ?_⟩
      obtain ⟨_, _, hdollar, hat⟩ := Opens.ne_of_isQuote hquote
      have hnot : isMark quote = false := by
        rw [isMark, decide_eq_false hne, decide_eq_false hdollar, decide_eq_false hat]
        rfl
      cases hmark.symm.trans hnot
  | verbatim => cases h' with
    | verbatim => exact ⟨'@', _, _, rfl, rfl, fun _ _ _ => rfl⟩
  | lineComment => cases h' with
    | lineComment => exact ⟨'/', _, _, rfl, rfl, fun hmark => by cases hmark⟩
  | blockComment => cases h' with
    | blockComment => exact ⟨'/', _, _, rfl, rfl, fun hmark => by cases hmark⟩

/-- What is parsed in front of a token is parsed in front of every token of its kind. -/
theorem parsed_append {before : List Region} (h : IsToken kind t) (h' : IsToken kind t')
    (hparsed : Parsed before (t ++ next)) : Parsed before (t' ++ next) := by
  obtain ⟨c, rest, rest', rfl, rfl, hquote⟩ := exists_head h h'
  exact Parsed.of_head hparsed fun hmark hne _ => hquote hmark hne next

end IsToken

/-- Two texts have the same line ends at the same offsets. -/
def SameLineEnds (t t' : Text) : Prop :=
  ∀ (offset : Nat) (c : CodePoint), c = '\r' ∨ c = '\n' →
    (t[offset]? = some c ↔ t'[offset]? = some c)

/-- Texts of one length with the same line ends are blanked out alike. -/
theorem SameLineEnds.map_blank {t t' : Text} (h : SameLineEnds t t')
    (hlength : t.length = t'.length) : t.map blank = t'.map blank := by
  refine List.ext_getElem (by rw [List.length_map, List.length_map, hlength]) fun i hi hi' => ?_
  rw [List.getElem_map, List.getElem_map]
  rw [List.length_map] at hi hi'
  have hget := List.getElem?_eq_getElem hi
  have hget' := List.getElem?_eq_getElem hi'
  by_cases hline : t[i] = '\r' ∨ t[i] = '\n'
  · have hsame := (h i _ hline).mp hget
    rw [hget'] at hsame
    rw [Option.some.inj hsame]
  · have hline' : ¬ (t'[i] = '\r' ∨ t'[i] = '\n') := by
      intro hend
      have hsame := (h i _ hend).mpr hget'
      rw [hget] at hsame
      exact hline (Option.some.inj hsame ▸ hend)
    rw [blank, if_neg hline, blank, if_neg hline']

/-- A body is blanked out up to the quote at its end. -/
theorem maskBody_append_quote {quote : CodePoint} (hquote : isQuote quote = true)
    (content : Text) : maskBody (content ++ [quote]) = content.map blank ++ [quote] := by
  induction content with
  | nil => exact if_pos hquote
  | cons c rest ih =>
    have hne : rest ++ [quote] ≠ [] := by simp
    rw [List.cons_append, maskBody.eq_3 _ _ hne, ih, List.map_cons, List.cons_append]

/-- Tokens of one kind and one length with the same line ends are masked alike. -/
theorem IsToken.masked_region {kind : TokenKind} {t t' : Text} (h : IsToken kind t)
    (h' : IsToken kind t') (hlength : t.length = t'.length)
    (hends : kind ≠ .lineComment → SameLineEnds t t') :
    (kind.region t).masked = (kind.region t').masked := by
  cases h with
  | @regular quote content hquote _ => cases h' with
    | @regular _ content' _ _ =>
      have hblank := (hends (by simp)).map_blank hlength
      simp only [List.map_cons, List.map_append, List.map_nil] at hblank
      have hcontent := List.append_cancel_right (List.cons.inj hblank).2
      simp only [TokenKind.region, Region.masked, List.tail_cons, maskBody_append_quote hquote,
        hcontent]
  | @verbatim content _ => cases h' with
    | @verbatim content' _ =>
      have hblank := (hends (by simp)).map_blank hlength
      simp only [List.map_cons, List.map_append, List.map_nil] at hblank
      have hcontent := List.append_cancel_right (List.cons.inj (List.cons.inj hblank).2).2
      have hquote : isQuote '"' = true := rfl
      simp only [TokenKind.region, Region.masked, List.drop_succ_cons, List.drop_zero,
        maskBody_append_quote hquote, hcontent]
  | lineComment => cases h' with
    | lineComment =>
      simp only [TokenKind.region, Region.masked, List.map_const', hlength]
  | blockComment => cases h' with
    | blockComment => exact (hends (by simp)).map_blank hlength

/-- A token is masked in front of what follows it. -/
theorem IsToken.mask_append {kind : TokenKind} {t next : Text} (h : IsToken kind t)
    (hnext : kind.MayPrecede next) : mask (t ++ next) = (kind.region t).masked ++ mask next := by
  have hregions := (h.fits hnext).regions_eq
  rw [h.source_region] at hregions
  rw [mask, hregions, List.flatMap_cons]
  rfl

/-- The cut of a source into regions reaches an offset: nothing that starts earlier, neither a
comment nor a literal, goes on there. -/
def ReachesCode (t : Text) (offset : Nat) : Prop :=
  ∃ before after, regions t = before ++ after ∧
    (before.flatMap Region.source).length = offset

/-- What is parsed in front of a text is masked in front of it. -/
theorem Parsed.mask_append {before : List Region} {next : Text} (h : Parsed before next) :
    mask (before.flatMap Region.source ++ next) = before.flatMap Region.masked ++ mask next := by
  rw [mask, h.regions_eq, List.flatMap_append]
  rfl

/-- What stands in front of an offset that is reached is parsed in front of what follows. -/
theorem ReachesCode.exists_parsed {p next : Text} (h : ReachesCode (p ++ next) p.length) :
    ∃ before, before.flatMap Region.source = p ∧ Parsed before next := by
  obtain ⟨before, after, hregions, hoffset⟩ := h
  have hwhole : before.flatMap Region.source ++ after.flatMap Region.source = p ++ next := by
    rw [← List.flatMap_append, ← hregions, regions_source]
  obtain ⟨hfront, hback⟩ := List.append_inj hwhole hoffset
  have hparsed := parsed_regions (p ++ next)
  rw [hregions, TemplateLint.Source.parsed_append, hback, List.append_nil] at hparsed
  exact ⟨before, hfront, hparsed.1⟩

/-- The contents of literals and comments are invisible behind the mask. If the cut of a source
reaches a complete token outside all literals and comments, then every complete token of the
same kind and length, with the same line ends, may stand in its place, and the masked source is
the same; the line ends do not count in a comment that ends with its line. -/
theorem mask_eq_of_token {kind : TokenKind} {p t t' s : Text} (h : IsToken kind t)
    (h' : IsToken kind t') (hlength : t.length = t'.length)
    (hends : kind ≠ .lineComment → SameLineEnds t t') (hnext : kind.MayPrecede s)
    (hreach : ReachesCode (p ++ (t ++ s)) p.length) :
    mask (p ++ (t ++ s)) = mask (p ++ (t' ++ s)) := by
  obtain ⟨before, hbefore, hparsed⟩ := hreach.exists_parsed
  have hparsed' : Parsed before (t' ++ s) := h.parsed_append h' hparsed
  rw [← hbefore, hparsed.mask_append, hparsed'.mask_append, h.mask_append hnext,
    h'.mask_append hnext, h.masked_region h' hlength hends]

/-- A literal with an escaped quote and the start of a comment, and one with a bracket and a
comma: the call around them is masked alike. -/
theorem mask_eq_of_token_literal :
    let p : Text := "f("
    let t : Text := "\"a\\\"//\""
    let t' : Text := "\"),/*c\""
    let s : Text := ", x) // y"
    t ≠ t' ∧ IsToken (.regular '"') t ∧ IsToken (.regular '"') t' ∧
      ReachesCode (p ++ (t ++ s)) p.length ∧ mask (p ++ (t ++ s)) = mask (p ++ (t' ++ s)) := by
  intro p t t' s
  have h : IsToken (.regular '"') t := .regular rfl (.plain (by decide) (by decide) (by decide)
    (.escape (by decide) (.plain (by decide) (by decide) (by decide)
      (.plain (by decide) (by decide) (by decide) .nil))))
  have h' : IsToken (.regular '"') t' := .regular rfl (.plain (by decide) (by decide) (by decide)
    (.plain (by decide) (by decide) (by decide) (.plain (by decide) (by decide) (by decide)
      (.plain (by decide) (by decide) (by decide)
        (.plain (by decide) (by decide) (by decide) .nil)))))
  have hlength : t.length = t'.length := by decide
  have hline : ∀ c ∈ t ++ t', ¬ (c = '\r' ∨ c = '\n') := by decide
  have hends : SameLineEnds t t' := fun offset c hc =>
    ⟨fun hget => absurd hc (hline c (List.mem_append_left _ (List.mem_of_getElem? hget))),
      fun hget => absurd hc (hline c (List.mem_append_right _ (List.mem_of_getElem? hget)))⟩
  have hreach : ReachesCode (p ++ (t ++ s)) p.length :=
    ⟨(regions (p ++ (t ++ s))).take 2, (regions (p ++ (t ++ s))).drop 2,
      (List.take_append_drop _ _).symm, by decide +kernel⟩
  have hmask := mask_eq_of_token h h' hlength (fun _ => hends) trivial hreach
  exact ⟨by decide, h, h', hreach, hmask⟩

end TemplateLint.Source
