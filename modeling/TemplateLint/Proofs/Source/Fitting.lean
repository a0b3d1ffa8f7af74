import TemplateLint.Proofs.Source.Ending

/-!
# Regions in front of a text

A region fits in front of a text if the two are cut apart again. Main statements: the regions
of a source are those that fit in front of each other; whether a region fits is decided by
the first two code points that follow it; and a region that is closed fits in front of
everything that can follow an argument.
-/

namespace TemplateLint.Source

/-- The opener of a literal, its closing quote, and the scan of what follows the opener. -/
inductive Opens : Text → CodePoint → (Text → Nat) → Prop
  /-- The dollar sign comes first. -/
  | dollarAt : Opens ['$', '@', '"'] '"' (interpolatedLength true 0 false)
  /-- The at sign comes first. -/
  | atDollar : Opens ['@', '$', '"'] '"' (interpolatedLength true 0 false)
  /-- An interpolated literal that is not verbatim. -/
  | dollar : Opens ['$', '"'] '"' (interpolatedLength false 0 false)
  /-- A verbatim literal. -/
  | verbatim : Opens ['@', '"'] '"' verbatimLength
  /-- A regular literal. -/
  | regular {c : CodePoint} (hc : isQuote c = true) : Opens [c] c (regularLength c)

namespace Opens

variable {opener body rest t : Text} {quote next : CodePoint} {scan : Text → Nat}

/-- A quote is no backslash, no slash, and neither of the signs in front of a quote. -/
theorem ne_of_isQuote {c : CodePoint} (hc : isQuote c = true) :
    c ≠ '\\' ∧ c ≠ '/' ∧ c ≠ '$' ∧ c ≠ '@' := by
  have hne : ∀ d : CodePoint, isQuote d = false → c ≠ d := by
    rintro d hd rfl
    cases hc.symm.trans hd
  exact ⟨hne _ rfl, hne _ rfl, hne _ rfl, hne _ rfl⟩

/-- The scan of a literal ends with the closing quote or in front of a line end. -/
theorem ends (h : Opens opener quote scan) (hscan : scan (body ++ next :: rest) = body.length) :
    Ends scan quote next body := by
  cases h with
  | dollarAt => exact ends_interpolatedLength hscan
  | atDollar => exact ends_interpolatedLength hscan
  | dollar => exact ends_interpolatedLength hscan
  | verbatim => exact ends_verbatimLength hscan
  | regular hc => exact ends_regularLength (ne_of_isQuote hc).1 hscan

/-- Without a sign at the front a literal is found at a quote only. -/
theorem literalAt?_cons {c : CodePoint} (hdollar : c ≠ '$') (hat : c ≠ '@') (t : Text) :
    literalAt? (c :: t) = if isQuote c then some ([c], regularLength c t) else none := by
  have hstart : ∀ {d : CodePoint} (word : Text), c ≠ d → word.head? = some d →
      ¬ Text.startsWith (c :: t) word = true := by
    intro d word hne hword hstart
    obtain ⟨rest, rfl⟩ := List.head?_eq_some_iff.mp hword
    exact hne (List.cons_prefix_cons.mp (List.isPrefixOf_iff_prefix.mp hstart)).1.symm
  rw [literalAt?, if_neg (not_or.mpr ⟨hstart _ hdollar rfl, hstart _ hat rfl⟩),
    if_neg (hstart _ hdollar rfl), if_neg (hstart _ hat rfl)]

/-- A literal is found behind its opener. -/
theorem literalAt?_append (h : Opens opener quote scan) (t : Text) :
    literalAt? (opener ++ t) = some (opener, scan t) := by
  cases h with
  | dollarAt => rfl
  | atDollar => rfl
  | dollar => rfl
  | verbatim => rfl
  | regular hc =>
    obtain ⟨_, _, hdollar, hat⟩ := ne_of_isQuote hc
    exact (literalAt?_cons hdollar hat t).trans (if_pos hc)

/-- A literal that is found starts with an opener. -/
theorem of_literalAt? {length : Nat} (h : literalAt? t = some (opener, length)) :
    ∃ quote scan rest, Opens opener quote scan ∧ t = opener ++ rest ∧ length = scan rest := by
  have hfront : ∀ {word : Text}, Text.startsWith t word = true → ∃ rest, t = word ++ rest :=
    fun hstart => (List.isPrefixOf_iff_prefix.mp hstart).imp fun _ => Eq.symm
  unfold literalAt? at h
  split at h
  · next hstart =>
    rcases hstart with hstart | hstart
    · obtain ⟨rest, rfl⟩ := hfront hstart
      cases h
      exact ⟨_, _, rest, .dollarAt, rfl, rfl⟩
    · obtain ⟨rest, rfl⟩ := hfront hstart
      cases h
      exact ⟨_, _, rest, .atDollar, rfl, rfl⟩
  · split at h
    · next hstart =>
      obtain ⟨rest, rfl⟩ := hfront hstart
      cases h
      exact ⟨_, _, rest, .dollar, rfl, rfl⟩
    · split at h
      · next hstart =>
        obtain ⟨rest, rfl⟩ := hfront hstart
        cases h
        exact ⟨_, _, rest, .verbatim, rfl, rfl⟩
      · split at h
        · cases h
        · next c rest _ _ _ =>
          split at h
          · next hquote =>
            cases h
            exact ⟨_, _, rest, .regular hquote, rfl, rfl⟩
          · cases h

/-- Whether a literal comes first is decided by the openers. -/
theorem literalAt?_eq_none_iff :
    literalAt? t = none ↔ ∀ opener quote scan, Opens opener quote scan → ¬ opener <+: t := by
  constructor
  · rintro hnone opener quote scan hopens ⟨rest, rfl⟩
    cases hnone.symm.trans (hopens.literalAt?_append rest)
  · intro hopener
    cases hfound : literalAt? t with
    | none => rfl
    | some found =>
      obtain ⟨quote, scan, rest, hopens, rfl, _⟩ := of_literalAt? hfound
      exact absurd (List.prefix_append _ _) (hopener _ _ _ hopens)

end Opens

/-- The region at the front of a source that is not empty. -/
def front? : Text → Option Region
  | [] => none
  | c :: rest => some (regionAt c rest)

/-- A region fits in front of a text if the two are cut apart again. -/
def Fits (region : Region) (next : Text) : Prop :=
  front? (region.source ++ next) = some region

instance (region : Region) (next : Text) : Decidable (Fits region next) :=
  inferInstanceAs (Decidable (_ = _))

/-- What the region at the front of a source says about the source. -/
inductive IsFront (c : CodePoint) (rest : Text) : Region → Prop
  /-- Two slashes start a comment up to the end of the line. -/
  | lineComment (hc : c = '/') (hrest : rest.head? = some (CodePoint.ofChar '/')) :
    IsFront c rest (.lineComment (c :: rest.takeWhile fun (d : CodePoint) => decide (d ≠ '\n')))
  /-- A slash and a star start a comment up to its mark. -/
  | blockComment (hc : c = '/') (hrest : rest.head? = some (CodePoint.ofChar '*')) :
    IsFront c rest
      (.blockComment (c :: rest.take (1 + (blockEnd? rest.tail).getD rest.tail.length)))
  /-- An opener starts a literal. -/
  | literal {opener : Text} {length : Nat}
      (hliteral : literalAt? (c :: rest) = some (opener, length)) :
    IsFront c rest (.literal opener (((c :: rest).drop opener.length).take length))
  /-- Nothing starts. -/
  | code (hline : ¬ (c = '/' ∧ rest.head? = some (CodePoint.ofChar '/')))
      (hblock : ¬ (c = '/' ∧ rest.head? = some (CodePoint.ofChar '*')))
      (hliteral : literalAt? (c :: rest) = none) : IsFront c rest (.code c)

/-- The region at the front of a source is one of these. -/
theorem isFront_regionAt (c : CodePoint) (rest : Text) : IsFront c rest (regionAt c rest) := by
  unfold regionAt
  split
  · next hline => exact .lineComment hline.1 hline.2
  · next hline =>
    split
    · next hblock => exact .blockComment hblock.1 hblock.2
    · next hblock =>
      split
      · next opener length hliteral => exact .literal hliteral
      · next hliteral => exact .code hline hblock hliteral

/-- A front of a concatenation that is the first part, where the second one is not empty, is
cut at the length of the first part. -/
theorem length_eq_of_take_append {α : Type} {u v : List α} {n : Nat} (h : (u ++ v).take n = u)
    (hv : v ≠ []) : n = u.length := by
  have hlength := congrArg List.length h
  have hpos := List.length_pos_iff.mpr hv
  rw [List.length_take, List.length_append] at hlength
  omega

/-- A run of code points is the first part of a concatenation if it runs through this part
and stops in front of the other one. -/
theorem takeWhile_append_eq_left_iff {α : Type} {p : α → Bool} {u v : List α} :
    (u ++ v).takeWhile p = u ↔ (∀ a ∈ u, p a = true) ∧ ∀ a, v.head? = some a → p a = false := by
  induction u with
  | nil =>
    cases v with
    | nil => simp
    | cons a v => simp [List.takeWhile_cons]
  | cons a u ih =>
    rw [List.cons_append, List.takeWhile_cons, List.forall_mem_cons]
    split
    · next ha => rw [List.cons_inj_right, ih, and_assoc, and_iff_right ha]
    · next ha => exact ⟨nofun, fun h => absurd h.1.1 ha⟩

namespace Fits

variable {region : Region} {next later : Text} {c d : CodePoint}

/-- A region that fits somewhere is not empty, and it is found at the front of its source. -/
theorem exists_cons (h : Fits region next) :
    ∃ first rest, region.source = first :: rest ∧ regionAt first (rest ++ next) = region := by
  unfold Fits at h
  generalize hwhole : region.source ++ next = whole at h
  cases whole with
  | nil => cases h
  | cons first rest =>
    have hregion : regionAt first rest = region := Option.some.inj h
    have hne := (regionAt_source_isPrefix first rest).2
    rw [hregion] at hne
    obtain ⟨head, tail, hsource⟩ := List.exists_cons_of_ne_nil hne
    rw [hsource] at hwhole
    cases hwhole
    exact ⟨first, tail, hsource, hregion⟩

/-- The first region of a source whose front is known. -/
theorem of_cons {first : CodePoint} {rest : Text} (hsource : region.source = first :: rest)
    (hregion : regionAt first (rest ++ next) = region) : Fits region next := by
  rw [Fits, hsource]
  exact congrArg some hregion

/-- The regions of a source whose first region is known. -/
theorem regions_eq (h : Fits region next) :
    regions (region.source ++ next) = region :: regions next := by
  obtain ⟨first, rest, hsource, hregion⟩ := h.exists_cons
  rw [hsource, List.cons_append, regions, hregion, hsource, List.length_cons,
    Nat.add_sub_cancel, List.drop_left]

/-- A code point fits in front of a text with which it forms no comment and no literal. -/
theorem code_iff : Fits (.code c) next ↔
    ¬ (c = '/' ∧ next.head? = some (CodePoint.ofChar '/')) ∧
      ¬ (c = '/' ∧ next.head? = some (CodePoint.ofChar '*')) ∧ literalAt? (c :: next) = none := by
  constructor
  · intro h
    have hfront := isFront_regionAt c next
    rw [show regionAt c next = .code c from Option.some.inj h] at hfront
    cases hfront with
    | code hline hblock hliteral => exact ⟨hline, hblock, hliteral⟩
  · rintro ⟨hline, hblock, hliteral⟩
    refine of_cons rfl ?_
    rw [List.nil_append, regionAt, if_neg hline, if_neg hblock, hliteral]

/-- A literal that fits somewhere is found behind its opener. -/
theorem exists_literalAt? {opener body : Text} (h : Fits (.literal opener body) next) :
    ∃ length, literalAt? (opener ++ (body ++ next)) = some (opener, length) ∧
      (body ++ next).take length = body := by
  obtain ⟨first, rest, hsource, hregion⟩ := h.exists_cons
  have hwhole : first :: (rest ++ next) = opener ++ (body ++ next) := by
    rw [← List.cons_append, ← hsource, Region.source, List.append_assoc]
  have hfront := isFront_regionAt first (rest ++ next)
  rw [hregion] at hfront
  generalize hbody : Region.literal opener body = literal at hfront
  cases hfront with
  | lineComment => cases hbody
  | blockComment => cases hbody
  | code => cases hbody
  | @literal _ length hliteral =>
    obtain ⟨rfl, hbody⟩ := Region.literal.inj hbody
    rw [hwhole] at hliteral hbody
    rw [List.drop_left] at hbody
    exact ⟨length, hliteral, hbody.symm⟩

/-- A literal that fits somewhere has an opener. -/
theorem opens {opener body : Text} (h : Fits (.literal opener body) next) :
    ∃ quote scan, Opens opener quote scan := by
  obtain ⟨length, hliteral, _⟩ := h.exists_literalAt?
  obtain ⟨quote, scan, _, hopens, _⟩ := Opens.of_literalAt? hliteral
  exact ⟨quote, scan, hopens⟩

/-- A literal that fits in front of a code point is taken by its scan. -/
theorem exists_opens {opener body : Text} (h : Fits (.literal opener body) (c :: next)) :
    ∃ quote scan, Opens opener quote scan ∧ scan (body ++ c :: next) = body.length := by
  obtain ⟨length, hliteral, hbody⟩ := h.exists_literalAt?
  obtain ⟨quote, scan, behind, hopens, hbehind, rfl⟩ := Opens.of_literalAt? hliteral
  cases List.append_cancel_left hbehind
  exact ⟨quote, scan, hopens, length_eq_of_take_append hbody (List.cons_ne_nil _ _)⟩

/-- An opener and what its scan takes are a literal. -/
theorem literal {opener body : Text} {quote : CodePoint} {scan : Text → Nat}
    (hopens : Opens opener quote scan) (hscan : scan (body ++ next) = body.length) :
    Fits (.literal opener body) next := by
  obtain ⟨first, rest, hopener, hslash⟩ : ∃ first rest, opener = first :: rest ∧ first ≠ '/' := by
    cases hopens with
    | dollarAt => exact ⟨_, _, rfl, by decide⟩
    | atDollar => exact ⟨_, _, rfl, by decide⟩
    | dollar => exact ⟨_, _, rfl, by decide⟩
    | verbatim => exact ⟨_, _, rfl, by decide⟩
    | regular hc => exact ⟨_, _, rfl, (Opens.ne_of_isQuote hc).2.1⟩
  have hwhole : first :: (rest ++ body ++ next) = opener ++ (body ++ next) := by
    rw [hopener, List.cons_append, List.append_assoc]
  refine of_cons (by rw [Region.source, hopener, List.cons_append]) ?_
  rw [regionAt, if_neg fun h => hslash h.1, if_neg fun h => hslash h.1, hwhole,
    hopens.literalAt?_append]
  dsimp only
  rw [List.drop_left, hscan, List.take_left]

/-- A comment up to the end of its line fits where the line ends. -/
theorem lineComment_iff {text : Text} : Fits (.lineComment text) next ↔
    (∃ body : Text, text = CodePoint.ofChar '/' :: body ∧
      body.head? = some (CodePoint.ofChar '/') ∧ ∀ c ∈ body, c ≠ '\n') ∧
      ∀ c, next.head? = some c → c = '\n' := by
  have hrun : ∀ {body : Text}, (body ++ next).takeWhile
      (fun (d : CodePoint) => decide (d ≠ '\n')) = body ↔
      (∀ c ∈ body, c ≠ '\n') ∧ ∀ c, next.head? = some c → c = '\n' := by
    intro body
    rw [takeWhile_append_eq_left_iff]
    simp only [decide_eq_true_eq, decide_eq_false_iff_not, ne_eq, Decidable.not_not]
  constructor
  · intro h
    obtain ⟨first, rest, hsource, hregion⟩ := h.exists_cons
    have hfront := isFront_regionAt first (rest ++ next)
    rw [hregion] at hfront
    generalize hcomment : Region.lineComment text = comment at hfront
    cases hfront with
    | blockComment => cases hcomment
    | literal => cases hcomment
    | code => cases hcomment
    | lineComment hfirst hhead =>
      obtain ⟨_, hrest⟩ := List.cons.inj (hsource.symm.trans (Region.lineComment.inj hcomment))
      obtain ⟨hbody, hnext⟩ := hrun.mp hrest.symm
      refine ⟨⟨rest, ?_, ?_, hbody⟩, hnext⟩
      · rw [← hfirst]
        exact hsource
      · cases rest with
        | nil => cases hnext _ hhead
        | cons second rest => exact hhead
  · rintro ⟨⟨body, rfl, hhead, hbody⟩, hnext⟩
    have hslash : (body ++ next).head? = some (CodePoint.ofChar '/') := by
      rw [List.head?_append, hhead, Option.some_or]
    refine of_cons rfl ?_
    rw [regionAt, if_pos ⟨rfl, hslash⟩, hrun.mpr ⟨hbody, hnext⟩]

/-- A block comment that fits in front of a code point ends with its mark. -/
theorem exists_blockEnd {text : Text} (h : Fits (.blockComment text) (c :: next)) :
    ∃ body : Text, text = CodePoint.ofChar '/' :: CodePoint.ofChar '*' :: body ∧
      blockEnd? (body ++ c :: next) = some body.length := by
  obtain ⟨first, rest, hsource, hregion⟩ := h.exists_cons
  have hfront := isFront_regionAt first (rest ++ c :: next)
  rw [hregion] at hfront
  generalize hcomment : Region.blockComment text = comment at hfront
  cases hfront with
  | lineComment => cases hcomment
  | literal => cases hcomment
  | code => cases hcomment
  | blockComment hfirst hhead =>
    obtain ⟨_, hrest⟩ := List.cons.inj (hsource.symm.trans (Region.blockComment.inj hcomment))
    rw [Nat.add_comm] at hrest
    cases rest with
    | nil => cases hrest
    | cons second body =>
      have hlength := length_eq_of_take_append (List.cons.inj hrest).2.symm (List.cons_ne_nil _ _)
      refine ⟨body, ?_, ?_⟩
      · rw [← hfirst, ← Option.some.inj hhead]
        exact hsource
      · rw [List.cons_append, List.tail_cons] at hlength
        cases hend : blockEnd? (body ++ c :: next) with
        | none =>
          rw [hend, Option.getD_none, List.length_append, List.length_cons] at hlength
          omega
        | some length =>
          rw [hend, Option.getD_some] at hlength
          rw [hlength]

/-- A comment with its mark fits in front of everything. -/
theorem blockComment {body : Text} (hend : blockEnd? (body ++ next) = some body.length)
    (later : Text) :
    Fits (.blockComment (CodePoint.ofChar '/' :: CodePoint.ofChar '*' :: body)) later := by
  refine of_cons rfl ?_
  have hline : ¬ (CodePoint.ofChar '/' = '/' ∧ (CodePoint.ofChar '*' :: body ++ later).head? =
      some (CodePoint.ofChar '/')) := fun h => absurd (Option.some.inj h.2) (by decide)
  rw [regionAt, if_neg hline, if_pos ⟨rfl, rfl⟩, List.cons_append, List.tail_cons,
    blockEnd?_append hend, Option.getD_some, Nat.add_comm, List.take_succ_cons, List.take_left]

/-- A block comment that fits in front of a code point fits in front of everything. -/
theorem of_blockComment {text : Text} (h : Fits (.blockComment text) (c :: next))
    (later : Text) : Fits (.blockComment text) later := by
  obtain ⟨body, rfl, hend⟩ := h.exists_blockEnd
  exact blockComment hend later

end Fits

/-- A sign or a quote, with which a literal goes on behind its first code point. -/
def isMark (c : CodePoint) : Bool :=
  c = '"' || c = '@' || c = '$'

/-- No literal comes first if none did and what follows the first code point starts with no
mark, or with what followed it before. -/
theorem Opens.literalAt?_eq_none {c : CodePoint} {next later : Text}
    (h : literalAt? (c :: next) = none)
    (hlater : ∀ d rest, later = d :: rest → isMark d = true → ∃ old, next = d :: old ∧
      (d ≠ '"' → rest.head? = some (CodePoint.ofChar '"') →
        old.head? = some (CodePoint.ofChar '"'))) :
    literalAt? (c :: later) = none := by
  rw [literalAt?_eq_none_iff] at h ⊢
  intro opener quote scan hopens hfront
  refine h opener quote scan hopens ?_
  have hsign : ∀ sign : CodePoint, isMark sign = true → sign ≠ '"' →
      [sign, CodePoint.ofChar '"'] <+: later → [sign, CodePoint.ofChar '"'] <+: next := by
    rintro sign hmark hsign ⟨rest, hrest⟩
    obtain ⟨old, rfl, hold⟩ := hlater _ _ hrest.symm hmark
    obtain ⟨old, rfl⟩ := List.head?_eq_some_iff.mp (hold hsign rfl)
    exact ⟨old, rfl⟩
  have hquote : [CodePoint.ofChar '"'] <+: later → [CodePoint.ofChar '"'] <+: next := by
    rintro ⟨rest, hrest⟩
    obtain ⟨old, rfl, _⟩ := hlater _ _ hrest.symm rfl
    exact ⟨old, rfl⟩
  cases hopens with
  | dollarAt =>
    obtain ⟨rfl, hrest⟩ := List.cons_prefix_cons.mp hfront
    exact List.cons_prefix_cons.mpr ⟨rfl, hsign '@' rfl (by decide) hrest⟩
  | atDollar =>
    obtain ⟨rfl, hrest⟩ := List.cons_prefix_cons.mp hfront
    exact List.cons_prefix_cons.mpr ⟨rfl, hsign '$' rfl (by decide) hrest⟩
  | dollar =>
    obtain ⟨rfl, hrest⟩ := List.cons_prefix_cons.mp hfront
    exact List.cons_prefix_cons.mpr ⟨rfl, hquote hrest⟩
  | verbatim =>
    obtain ⟨rfl, hrest⟩ := List.cons_prefix_cons.mp hfront
    exact List.cons_prefix_cons.mpr ⟨rfl, hquote hrest⟩
  | regular =>
    obtain ⟨rfl, _⟩ := List.cons_prefix_cons.mp hfront
    exact List.cons_prefix_cons.mpr ⟨rfl, List.nil_prefix⟩

/-- Whether a region is masked to blanks. -/
def Region.isBlank : Region → Bool
  | .code c => c.isBlank
  | .lineComment _ => true
  | .blockComment _ => true
  | .literal _ _ => false

/-- A literal is closed if it does not go on when a space follows it: an open literal takes
the space for a part of its content. A comment up to the end of its line, and a comment with
its mark, are closed by what they are. -/
def Region.IsClosed : Region → Prop
  | .literal opener body => Fits (.literal opener body) [' ']
  | _ => True

instance : DecidablePred Region.IsClosed
  | .code _ => .isTrue trivial
  | .lineComment _ => .isTrue trivial
  | .blockComment _ => .isTrue trivial
  | .literal opener body => inferInstanceAs (Decidable (Fits (.literal opener body) [' ']))

-- an escaped quote does not close a regular literal, and a doubled one no verbatim literal
example : (Region.literal ['"'] "a\\\"\"").IsClosed ∧
    ¬ (Region.literal ['"'] "a\\\"").IsClosed ∧ (Region.literal ['@', '"'] "a\\\"").IsClosed ∧
    ¬ (Region.literal ['@', '"'] "a\"\"").IsClosed := by
  decide

namespace Fits

variable {region : Region} {next later : Text} {c d : CodePoint}

/-- A region fits in front of every text that starts with the same code point, unless a
literal comes about behind a sign. -/
theorem of_same (h : Fits region (c :: next))
    (hquote : isMark c = true → c ≠ '"' → later.head? = some (CodePoint.ofChar '"') →
      next.head? = some (CodePoint.ofChar '"')) : Fits region (c :: later) := by
  cases region with
  | code b =>
    obtain ⟨hline, hblock, hliteral⟩ := code_iff.mp h
    refine code_iff.mpr ⟨hline, hblock, Opens.literalAt?_eq_none hliteral ?_⟩
    rintro _ _ ⟨⟩ hmark
    exact ⟨next, rfl, hquote hmark⟩
  | lineComment text =>
    obtain ⟨hbody, hnext⟩ := lineComment_iff.mp h
    exact lineComment_iff.mpr ⟨hbody, hnext⟩
  | blockComment text => exact h.of_blockComment _
  | literal opener body =>
    obtain ⟨quote, scan, hopens, hscan⟩ := h.exists_opens
    exact .literal hopens ((hopens.ends hscan).scan_eq (.inl rfl))

/-- A region that fits somewhere fits in front of nothing. -/
theorem nil (h : Fits region next) : Fits region [] := by
  cases next with
  | nil => exact h
  | cons c next =>
    cases region with
    | code b =>
      obtain ⟨_, _, hliteral⟩ := code_iff.mp h
      exact code_iff.mpr ⟨nofun, nofun, Opens.literalAt?_eq_none hliteral nofun⟩
    | lineComment text =>
      obtain ⟨hbody, _⟩ := lineComment_iff.mp h
      exact lineComment_iff.mpr ⟨hbody, nofun⟩
    | blockComment text => exact h.of_blockComment []
    | literal opener body =>
      obtain ⟨quote, scan, hopens, hscan⟩ := h.exists_opens
      refine .literal hopens ?_
      rw [List.append_nil]
      exact (hopens.ends hscan).scan_body

/-- A region that is closed and not blank, and is no slash, fits in front of every text that
does not start with a mark. -/
theorem of_isClosed (h : Fits region next) (hclosed : region.IsClosed)
    (hblank : region.isBlank = false) (hslash : region ≠ .code '/') (hd : isMark d = false) :
    Fits region (d :: later) := by
  cases region with
  | code b =>
    have hne : b ≠ '/' := fun hb => hslash (congrArg _ hb)
    obtain ⟨_, _, hliteral⟩ := code_iff.mp h
    refine code_iff.mpr ⟨fun h => hne h.1, fun h => hne h.1,
      Opens.literalAt?_eq_none hliteral ?_⟩
    rintro _ _ ⟨⟩ hmark
    cases hmark.symm.trans hd
  | lineComment text => cases hblank
  | blockComment text => cases hblank
  | literal opener body =>
    obtain ⟨quote, scan, hopens, hscan⟩ := exists_opens hclosed
    refine .literal hopens ((hopens.ends hscan).scan_eq (.inr ⟨by decide, ?_⟩))
    rintro rfl
    cases hd

end Fits

end TemplateLint.Source
