import TemplateLint.Proofs.Expr.Pattern
import TemplateLint.Proofs.Expr.Printed
import TemplateLint.Proofs.Source.Offset

/-!
# Where literals end

Masking steps over a literal with a scan that also ends for a broken one, and the grammar of
expressions gives a literal as a regular expression, which is matched greedily and with
backtracking. Main statement: where the scan stops behind a closing quote, the pattern matches
up to the same place, and for a literal on one line also conversely; only a backslash in front
of a line end, and a content that may not be empty, tell the two apart.
-/

namespace TemplateLint

namespace Source

/-- Number of marks at the end of a text. -/
def marksAtEnd (mark : CodePoint) (t : Text) : Nat :=
  (t.reverse.takeWhile fun c => decide (c = mark)).length

/-- What stands behind an opening quote is a content and a closing quote. A mark takes the next
code point with it, so the quote closes the literal if an even number of marks stands in front of
it. -/
def IsClosed (mark quote : CodePoint) (t : Text) : Prop :=
  ∃ content, t = content ++ [quote] ∧ marksAtEnd mark content % 2 = 0

/-- One more code point at the front counts only if all code points are marks. -/
theorem marksAtEnd_cons (mark c : CodePoint) (t : Text) :
    marksAtEnd mark (c :: t) =
      marksAtEnd mark t + if c = mark ∧ ∀ d ∈ t, d = mark then 1 else 0 := by
  have hself : (t.reverse.takeWhile fun d => decide (d = mark)) = t.reverse ↔
      ∀ d ∈ t, d = mark := by
    simp [List.takeWhile_eq_self_iff]
  rw [marksAtEnd, marksAtEnd, List.reverse_cons, List.takeWhile_append]
  by_cases hall : ∀ d ∈ t, d = mark
  · rw [hself.mpr hall, if_pos rfl, List.length_append]
    by_cases hc : c = mark
    · rw [if_pos ⟨hc, hall⟩]
      simp [hc]
    · rw [if_neg fun h => hc h.1]
      simp [hc]
  · have hshort : ¬ (t.reverse.takeWhile fun d => decide (d = mark)).length = t.reverse.length :=
      fun hlength => hall (hself.mp ((List.takeWhile_prefix _).eq_of_length hlength))
    rw [if_neg hshort, if_neg fun h => hall h.2, Nat.add_zero]

/-- A mark and the code point behind it keep the parity of the marks at the end. -/
theorem marksAtEnd_pair (mark d : CodePoint) (t : Text) :
    marksAtEnd mark (mark :: d :: t) % 2 = marksAtEnd mark t % 2 := by
  rw [marksAtEnd_cons, marksAtEnd_cons]
  simp only [List.forall_mem_cons, true_and]
  split <;> omega

namespace IsClosed

variable {mark quote c d : CodePoint} {t : Text}

/-- A closing quote with nothing in front of it. -/
theorem singleton (mark quote : CodePoint) : IsClosed mark quote [quote] :=
  ⟨[], rfl, rfl⟩

/-- A code point other than the mark does not take the next one with it. -/
theorem cons (h : IsClosed mark quote t) (hc : c ≠ mark) : IsClosed mark quote (c :: t) := by
  obtain ⟨content, rfl, heven⟩ := h
  refine ⟨c :: content, rfl, ?_⟩
  rw [marksAtEnd_cons, if_neg fun h => hc h.1, Nat.add_zero, heven]

/-- A mark and the code point that it takes with it stand in front. -/
theorem pair (h : IsClosed mark quote t) (d : CodePoint) :
    IsClosed mark quote (mark :: d :: t) := by
  obtain ⟨content, rfl, heven⟩ := h
  exact ⟨mark :: d :: content, rfl, (marksAtEnd_pair mark d content).trans heven⟩

/-- Behind a code point that is neither the mark nor the quote the literal is still closed. -/
theorem of_cons (h : IsClosed mark quote (c :: t)) (hmark : c ≠ mark) (hquote : c ≠ quote) :
    IsClosed mark quote t := by
  obtain ⟨content, ht, heven⟩ := h
  cases content with
  | nil => exact absurd (List.cons.inj ht).1 hquote
  | cons e content =>
    obtain ⟨rfl, rfl⟩ := List.cons.inj ht
    rw [marksAtEnd_cons, if_neg fun h => hmark h.1, Nat.add_zero] at heven
    exact ⟨content, rfl, heven⟩

/-- Behind a mark and the code point that it takes with it the literal is still closed. -/
theorem of_pair (h : IsClosed mark quote (mark :: d :: t)) : IsClosed mark quote t := by
  obtain ⟨content, ht, heven⟩ := h
  obtain _ | ⟨first, _ | ⟨second, content⟩⟩ := content
  · cases (List.cons.inj ht).2
  · obtain ⟨rfl, _⟩ := List.cons.inj ht
    rw [marksAtEnd_cons] at heven
    simp [marksAtEnd] at heven
  · obtain ⟨rfl, htail⟩ := List.cons.inj ht
    obtain ⟨rfl, rfl⟩ := List.cons.inj htail
    exact ⟨content, rfl, (marksAtEnd_pair _ d content).symm.trans heven⟩

/-- A closed literal is not empty. -/
theorem ne_nil (h : IsClosed mark quote t) : t ≠ [] := by
  obtain ⟨content, rfl, _⟩ := h
  exact List.append_ne_nil_of_right_ne_nil _ (List.cons_ne_nil _ _)

end IsClosed

/-- A backslash and the line end behind it. -/
def escapedLineEnd : Text :=
  ['\\', '\n']

section Regular

variable {quote : CodePoint} {content t : Text}

/-- The quote behind a content on one line closes the literal. -/
theorem RegularContent.isClosed (h : RegularContent quote content) :
    IsClosed '\\' quote (content ++ [quote]) := by
  induction h with
  | nil => exact .singleton _ _
  | plain hescape _ _ _ ih => exact ih.cons hescape
  | @escape c _ _ _ ih => exact ih.pair c

/-- No line end begins a content on one line. -/
theorem RegularContent.head_ne (h : RegularContent quote content) (hline : quote ≠ '\n') :
    (content ++ [quote]).head? ≠ some (CodePoint.ofChar '\n') := by
  cases h with
  | nil => exact fun hhead => hline (Option.some.inj hhead)
  | plain _ _ hne => exact fun hhead => hne (Option.some.inj hhead)
  | escape => exact fun hhead => by cases hhead

/-- No line end is escaped in a content on one line. -/
theorem RegularContent.not_escapedLineEnd (h : RegularContent quote content)
    (hline : quote ≠ '\n') : ¬ escapedLineEnd <:+: content ++ [quote] := by
  induction h with
  | nil => exact fun hinfix => absurd hinfix.length_le (by simp [escapedLineEnd])
  | @plain c rest hescape _ _ _ ih =>
    intro hinfix
    rcases List.infix_cons_iff.mp hinfix with hfront | hrest
    · exact hescape (List.cons_prefix_cons.mp hfront).1.symm
    · exact ih hrest
  | @escape c rest hne hrest ih =>
    intro hinfix
    rcases List.infix_cons_iff.mp hinfix with hfront | hinfix
    · exact hne (List.cons_prefix_cons.mp (List.cons_prefix_cons.mp hfront).2).1.symm
    · rcases List.infix_cons_iff.mp hinfix with hfront | hinfix
      · obtain ⟨next, hnext⟩ := (List.cons_prefix_cons.mp hfront).2
        exact hrest.head_ne hline (congrArg List.head? hnext).symm
      · exact ih hinfix

/-- Where the scan of a regular literal stops behind a closing quote, a content on one line stands
in front of it, if no line end is escaped. -/
theorem regularContent_of_isClosed (hquote : quote ≠ '\\')
    (hclosed : IsClosed '\\' quote (t.take (regularLength quote t)))
    (hline : ¬ escapedLineEnd <:+: t.take (regularLength quote t)) :
    ∃ content next, RegularContent quote content ∧ t = content ++ quote :: next := by
  fun_induction regularLength quote t with
  | case1 => exact absurd rfl hclosed.ne_nil
  | case2 =>
    obtain ⟨content, hcontent, _⟩ := hclosed
    obtain ⟨_, hlast⟩ := List.append_eq_singleton_iff.mp hcontent.symm |>.resolve_right
      fun h => by cases h.2
    exact absurd (List.cons.inj hlast).1 hquote
  | case3 d rest ih =>
    rw [Nat.add_comm, List.take_succ_cons, List.take_succ_cons] at hclosed hline
    obtain ⟨content, next, hcontent, rfl⟩ :=
      ih hclosed.of_pair fun h => hline (List.infix_cons (List.infix_cons h))
    have hd : d ≠ '\n' := by
      rintro rfl
      exact hline ⟨[], _, rfl⟩
    exact ⟨_, next, .escape hd hcontent, rfl⟩
  | case4 rest => exact ⟨[], rest, .nil, rfl⟩
  | case5 rest => exact absurd rfl hclosed.ne_nil
  | case6 c rest hescape hne hfeed ih =>
    rw [Nat.add_comm, List.take_succ_cons] at hclosed hline
    obtain ⟨content, next, hcontent, rfl⟩ :=
      ih (hclosed.of_cons hescape hne) fun h => hline (List.infix_cons h)
    exact ⟨c :: content, next, .plain hescape hne hfeed hcontent, rfl⟩

end Regular

/-- Where the scan of a verbatim literal stops behind a closing quote, only doubled quotes stand in
front of it, and no quote behind it. -/
theorem verbatimContent_of_isClosed {t : Text}
    (hclosed : IsClosed '"' '"' (t.take (verbatimLength t))) :
    ∃ content next, VerbatimContent content ∧ t = content ++ CodePoint.ofChar '"' :: next ∧
      next.head? ≠ some (CodePoint.ofChar '"') := by
  fun_induction verbatimLength t with
  | case1 => exact absurd rfl hclosed.ne_nil
  | case2 c =>
    obtain rfl : c = '"' := by
      by_contra hc
      exact absurd rfl (hclosed.of_cons hc hc).ne_nil
    exact ⟨[], [], .nil, rfl, by simp⟩
  | case3 rest ih =>
    rw [Nat.add_comm, List.take_succ_cons, List.take_succ_cons] at hclosed
    obtain ⟨content, next, hcontent, rfl, hnext⟩ := ih hclosed.of_pair
    exact ⟨_, next, .doubled hcontent, rfl, hnext⟩
  | case4 d rest hd => exact ⟨[], d :: rest, .nil, rfl, fun h => hd (Option.some.inj h)⟩
  | case5 c d rest hc ih =>
    rw [Nat.add_comm, List.take_succ_cons] at hclosed
    obtain ⟨content, next, hcontent, hrest, hnext⟩ := ih (hclosed.of_cons hc hc)
    exact ⟨c :: content, next, .plain hc hcontent, congrArg (c :: ·) hrest, hnext⟩

/-- Where masking goes on behind a regular literal whose opening quote stands at `i`. -/
def regularStop (quote : CodePoint) (text : Text) (i : Nat) : Nat :=
  i + 1 + regularLength quote (text.drop (i + 1))

/-- Where masking goes on behind a verbatim literal whose opening quote stands at `i`. -/
def verbatimStop (text : Text) (i : Nat) : Nat :=
  i + 1 + verbatimLength (text.drop (i + 1))

end Source

namespace Expr

open Source Regex

section Ends

variable {quote : CodePoint} {t text : Text} {i j n : Nat}

/-- A pattern of a regular literal takes what the scan takes, if the scan stops behind a closing
quote and no line end is escaped. -/
theorem regularEnd?_eq_some_iff (hquote : quote ≠ '\\') (hline : quote ≠ '\n') :
    regularEnd? quote t = some n ↔
      regularLength quote t = n ∧ IsClosed '\\' quote (t.take n) ∧
        ¬ escapedLineEnd <:+: t.take n := by
  constructor
  · intro h
    obtain ⟨content, next, hcontent, rfl, rfl⟩ := regularContent_of_regularEnd? h
    have htake : (content ++ quote :: next).take (content.length + 1) = content ++ [quote] := by
      rw [List.take_length_add_append, List.take_succ_cons, List.take_zero]
    rw [htake]
    exact ⟨hcontent.regularLength_append hquote next, hcontent.isClosed,
      hcontent.not_escapedLineEnd hline⟩
  · rintro ⟨rfl, hclosed, hescaped⟩
    obtain ⟨content, next, hcontent, rfl⟩ := regularContent_of_isClosed hquote hclosed hescaped
    rw [hcontent.regularLength_append hquote, regularEnd?_content hcontent hquote]

/-- A pattern of a verbatim literal takes what the scan takes, if the scan stops behind a closing
quote. -/
theorem verbatimEnd?_of_isClosed (h : IsClosed '"' '"' (t.take (verbatimLength t))) :
    verbatimEnd? t = some (verbatimLength t) := by
  obtain ⟨content, next, hcontent, rfl, hnext⟩ := verbatimContent_of_isClosed h
  rw [hcontent.verbatimLength_append hnext, verbatimEnd?_content hcontent hnext]

/-- The scan of a regular literal that stops behind a closing quote finds the end of the literal. -/
theorem regularStop_iff (hquote : quote ≠ '\\') (hline : quote ≠ '\n')
    (hi : text[i]? = some quote) :
    (regularStop quote text i = j ∧ IsClosed '\\' quote (text.slice (i + 1) j) ∧
        ¬ escapedLineEnd <:+: text.slice i j) ↔
      (regularEnd? quote (text.drop (i + 1))).map (i + 1 + ·) = some j := by
  have hslice : ∀ n, text.slice (i + 1) (i + 1 + n) = (text.drop (i + 1)).take n := by
    intro n
    rw [Text.slice, Nat.add_sub_cancel_left]
  -- The opening quote is no backslash, so no escaped line end begins with it.
  have hinfix : ∀ n, escapedLineEnd <:+: text.slice i (i + 1 + n) ↔
      escapedLineEnd <:+: (text.drop (i + 1)).take n := by
    intro n
    have hcons : text.slice i (i + 1 + n) = quote :: (text.drop (i + 1)).take n := by
      rw [Text.slice, List.drop_eq_getElem?_toList_append, hi,
        show i + 1 + n - i = n + 1 by omega]
      rfl
    rw [hcons, List.infix_cons_iff]
    refine or_iff_right fun hfront => ?_
    exact hquote (List.cons_prefix_cons.mp hfront).1.symm
  rw [Option.map_eq_some_iff]
  constructor
  · rintro ⟨rfl, hclosed, hescaped⟩
    rw [regularStop, hslice] at hclosed
    rw [regularStop, hinfix] at hescaped
    exact ⟨_, (regularEnd?_eq_some_iff hquote hline).mpr ⟨rfl, hclosed, hescaped⟩, rfl⟩
  · rintro ⟨n, hn, rfl⟩
    obtain ⟨rfl, hclosed, hescaped⟩ := (regularEnd?_eq_some_iff hquote hline).mp hn
    rw [hslice, hinfix]
    exact ⟨rfl, hclosed, hescaped⟩

/-- Character literals that match have something between their quotes. -/
theorem matchAt_charPattern_iff (hi : text[i]? = some (CodePoint.ofChar '\'')) :
    charPattern.matchAt text i = some j ↔
      (regularEnd? '\'' (text.drop (i + 1))).map (i + 1 + ·) = some j ∧
        text.slice (i + 1) (j - 1) ≠ [] := by
  have hbody : ∀ n, regularEnd? '\'' (text.drop (i + 1)) = some n →
      (text.slice (i + 1) (i + 1 + n - 1) ≠ [] ↔ n ≠ 1) := by
    intro n hn
    obtain ⟨hpos, hle⟩ := regularEnd?_bounds hn
    rw [Text.slice, ← List.length_pos_iff, List.length_take]
    omega
  rw [matchAt_charPattern hi, Option.map_eq_some_iff, Option.map_eq_some_iff]
  constructor
  · rintro ⟨n, hn, rfl⟩
    obtain ⟨hend, hne⟩ := Option.filter_eq_some_iff.mp hn
    exact ⟨⟨n, hend, rfl⟩, (hbody n hend).mpr (of_decide_eq_true hne)⟩
  · rintro ⟨⟨n, hend, rfl⟩, hne⟩
    have hone := decide_eq_true ((hbody n hend).mp hne)
    exact ⟨n, Option.filter_eq_some_iff.mpr ⟨hend, hone⟩, rfl⟩

/-- The scan of a literal and the pattern of the literal agree on its end. The scan stops just
past a closing quote at `j`, with no line end escaped in between, exactly if the pattern matches up
to `j`; this holds for string literals, and for character literals that are not empty. Where the
scan of a verbatim literal stops just past a closing quote, the pattern matches up to there. -/
theorem literal_ends_agree (text : Text) (i j : Nat) :
    (text[i]? = some (CodePoint.ofChar '"') →
      ((regularStop '"' text i = j ∧ IsClosed '\\' '"' (text.slice (i + 1) j) ∧
          ¬ escapedLineEnd <:+: text.slice i j) ↔
        stringPattern.matchAt text i = some j)) ∧
    (text[i]? = some (CodePoint.ofChar '\'') →
      ((regularStop '\'' text i = j ∧ IsClosed '\\' '\'' (text.slice (i + 1) j) ∧
          ¬ escapedLineEnd <:+: text.slice i j ∧ text.slice (i + 1) (j - 1) ≠ []) ↔
        charPattern.matchAt text i = some j)) ∧
    (text[i]? = some (CodePoint.ofChar '@') → text[i + 1]? = some (CodePoint.ofChar '"') →
      verbatimStop text (i + 1) = j → IsClosed '"' '"' (text.slice (i + 2) j) →
        verbatimPattern.matchAt text i = some j) := by
  refine ⟨fun hi => ?_, fun hi => ?_, fun hi hquote hstop hclosed => ?_⟩
  · rw [matchAt_stringPattern hi]
    exact regularStop_iff (by decide) (by decide) hi
  · rw [matchAt_charPattern_iff hi, ← regularStop_iff (by decide) (by decide) hi]
    simp only [and_assoc]
  · subst hstop
    rw [verbatimStop, Text.slice, Nat.add_sub_cancel_left] at hclosed
    have hend := verbatimEnd?_of_isClosed hclosed
    rw [verbatimPattern, matchAt_char_seq hi, matchAt_char_seq hquote,
      matchAt_of_head? (head?_rests_verbatim _), hend]
    · rfl
    · intro n hn
      obtain rfl := Option.some.inj (hn.symm.trans hend)
      refine ⟨Nat.pos_of_ne_zero fun hzero => hclosed.ne_nil ?_, verbatimLength_le _⟩
      rw [hzero, List.take_zero]

/-- An escaped quote and a doubled one do not end their literals, and a quote behind an escaped
backslash does. -/
theorem literal_ends_agree_quotes :
    stringPattern.matchAt ['"', '\\', '"', '\\', '\\', '"', ';'] 0 = some 6 ∧
    charPattern.matchAt ['\'', '\\', '\'', '\'', ';'] 0 = some 4 ∧
    verbatimPattern.matchAt ['@', '"', 'a', '"', '"', '"', ';'] 0 = some 6 := by
  have hstring := (literal_ends_agree ['"', '\\', '"', '\\', '\\', '"', ';'] 0 6).1 rfl
  have hchar := (literal_ends_agree ['\'', '\\', '\'', '\'', ';'] 0 4).2.1 rfl
  have hverbatim := (literal_ends_agree ['@', '"', 'a', '"', '"', '"', ';'] 0 6).2.2 rfl rfl rfl
  have hescaped : ∀ t : Text, CodePoint.ofChar '\n' ∉ t → ¬ escapedLineEnd <:+: t :=
    fun t hline h => hline (h.subset (.tail _ (.head _)))
  refine ⟨hstring.mp ⟨rfl, ?_, hescaped _ (by decide)⟩,
    hchar.mp ⟨rfl, ?_, hescaped _ (by decide), by decide⟩, hverbatim ?_⟩
  · exact ⟨['\\', '"', '\\', '\\'], rfl, rfl⟩
  · exact ⟨['\\', '\''], rfl, rfl⟩
  · exact ⟨['a', '"', '"'], rfl, rfl⟩

end Ends

end Expr

end TemplateLint
