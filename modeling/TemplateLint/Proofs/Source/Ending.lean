import TemplateLint.Source.Mask

/-!
# Where tokens end

A scan that ends inside a text ends for one of two reasons: it has taken a closing quote, or
it is in front of a line end. In the first case it ends there whatever follows, except for
another quote; in the second case it ends there because of the line end. In both cases it
takes the same code points if nothing follows. Main statements: the scans of all kinds of
literals end for one of these reasons, and a block comment that ends inside a text ends there
in every text.
-/

namespace TemplateLint.Source

/-- Why a scan takes a body and no more in front of a code point. -/
inductive Ends (scan : Text → Nat) (quote next : CodePoint) (body : Text) : Prop
  /-- The body ends with the closing quote. -/
  | closed (hlast : body.getLast? = some quote)
      (hscan : ∀ (d : CodePoint) (rest : Text), d = next ∨ d ≠ '"' →
        scan (body ++ d :: rest) = body.length)
      (hend : scan body = body.length)
  /-- A line end follows. -/
  | cutOff (hnext : next = '\n')
      (hscan : ∀ rest : Text, scan (body ++ next :: rest) = body.length)
      (hend : scan body = body.length)

namespace Ends

variable {scan scan' : Text → Nat} {quote next d : CodePoint} {body rest : Text}

/-- A scan that goes on as another one ends where the other one does. -/
theorem step (front : Text)
    (hfront : ∀ t, scan (front ++ (body ++ t)) = front.length + scan' (body ++ t))
    (ih : scan' (body ++ next :: rest) = body.length → Ends scan' quote next body)
    (h : scan (front ++ body ++ next :: rest) = (front ++ body).length) :
    Ends scan quote next (front ++ body) := by
  have hgo : ∀ t, scan' (body ++ t) = body.length →
      scan (front ++ body ++ t) = (front ++ body).length := by
    intro t ht
    rw [List.append_assoc, hfront, ht, List.length_append]
  have hgoEnd : scan' body = body.length → scan (front ++ body) = (front ++ body).length := by
    intro hend
    have hnil := hgo []
    rw [List.append_nil, List.append_nil] at hnil
    exact hnil hend
  rw [List.append_assoc, hfront, List.length_append] at h
  cases ih (Nat.add_left_cancel h) with
  | closed hlast hscan hend =>
    refine .closed ?_ (fun d rest hd => hgo _ (hscan d rest hd)) (hgoEnd hend)
    rw [List.getLast?_append, hlast, Option.some_or]
  | cutOff hnext hscan hend =>
    exact .cutOff hnext (fun rest => hgo _ (hscan rest)) (hgoEnd hend)

/-- A scan ends at the same place if the code point behind it is the same, or if it is in
front of neither a line end nor a quote. -/
theorem scan_eq (h : Ends scan quote next body) (hd : d = next ∨ (next ≠ '\n' ∧ d ≠ '"')) :
    scan (body ++ d :: rest) = body.length := by
  cases h with
  | closed _ hscan _ => exact hscan d rest (hd.imp_right And.right)
  | cutOff hnext hscan _ =>
    rcases hd with rfl | ⟨hne, _⟩
    · exact hscan rest
    · exact absurd hnext hne

/-- A scan takes the same body if nothing follows. -/
theorem scan_body (h : Ends scan quote next body) : scan body = body.length := by
  cases h with
  | closed _ _ hend => exact hend
  | cutOff _ _ hend => exact hend

/-- A scan that is not cut off takes the closing quote. -/
theorem getLast? (h : Ends scan quote next body) (hnext : next ≠ '\n') :
    body.getLast? = some quote := by
  cases h with
  | closed hlast _ _ => exact hlast
  | cutOff hcut _ _ => exact absurd hcut hnext

end Ends

section Regular

variable {quote next : CodePoint} {body rest : Text}

/-- A code point without a meaning of its own is passed over. -/
theorem regularLength_skip (hescape : next ≠ '\\') (hquote : next ≠ quote) (hline : next ≠ '\n')
    (rest : Text) : regularLength quote (next :: rest) = 1 + regularLength quote rest := by
  rw [regularLength.eq_def]
  exact (if_neg hescape).trans ((if_neg hquote).trans (if_neg hline))

/-- The quote is the last code point that is taken. -/
theorem regularLength_close (hquote : quote ≠ '\\') (rest : Text) :
    regularLength quote (quote :: rest) = 1 := by
  rw [regularLength.eq_def]
  exact (if_neg hquote).trans (if_pos rfl)

/-- Nothing is taken in front of a line end only. -/
theorem regularLength_eq_zero (h : regularLength quote (next :: rest) = 0) (later : Text) :
    next = '\n' ∧ regularLength quote (next :: later) = 0 := by
  rw [regularLength.eq_def] at h ⊢
  dsimp only at h ⊢
  split at h
  · split at h <;> omega
  · next hescape =>
    split at h
    · cases h
    · next hquote =>
      split at h
      · next hline =>
        exact ⟨hline, (if_neg hescape).trans ((if_neg hquote).trans (if_pos hline))⟩
      · omega

/-- A regular literal ends with its quote or in front of a line end. -/
theorem ends_regularLength (hquote : quote ≠ '\\')
    (h : regularLength quote (body ++ next :: rest) = body.length) :
    Ends (regularLength quote) quote next body := by
  fun_induction regularLength quote body with
  | case1 =>
    have hzero := regularLength_eq_zero h
    exact .cutOff (hzero rest).1 (fun later => (hzero later).2) rfl
  | case2 =>
    rw [List.cons_append, List.nil_append, regularLength, if_pos rfl, List.length_singleton] at h
    omega
  | case3 second body ih =>
    refine Ends.step ['\\', second] (fun t => ?_) ih h
    rw [regularLength.eq_def]
    exact if_pos rfl
  | case4 body =>
    rw [List.cons_append, regularLength_close hquote, List.length_cons] at h
    cases List.length_eq_zero_iff.mp (Nat.succ.inj h).symm
    exact .closed rfl (fun d rest _ => regularLength_close hquote (d :: rest))
      (regularLength_close hquote [])
  | case5 body hescape hne =>
    rw [List.cons_append, regularLength.eq_def] at h
    cases ((if_neg hescape).trans ((if_neg hne).trans (if_pos rfl))).symm.trans h
  | case6 c body hescape hne hline ih =>
    exact Ends.step [c] (fun t => regularLength_skip hescape hne hline (body ++ t)) ih h

end Regular

section Verbatim

variable {next : CodePoint} {body rest : Text}

/-- Something is always taken. -/
theorem verbatimLength_pos (next : CodePoint) (rest : Text) :
    0 < verbatimLength (next :: rest) := by
  cases rest with
  | nil => exact Nat.one_pos
  | cons d rest =>
    rw [verbatimLength]
    split
    · split <;> omega
    · omega

/-- A code point other than a quote is passed over. -/
theorem verbatimLength_skip (hnext : next ≠ '"') (rest : Text) :
    verbatimLength (next :: rest) = 1 + verbatimLength rest := by
  cases rest with
  | nil => rfl
  | cons d rest => rw [verbatimLength, if_neg hnext]

/-- A verbatim literal ends with a quote that is not doubled. -/
theorem ends_verbatimLength (h : verbatimLength (body ++ next :: rest) = body.length) :
    Ends verbatimLength '"' next body := by
  fun_induction verbatimLength body with
  | case1 => exact absurd h (Nat.ne_of_gt (verbatimLength_pos next rest))
  | case2 c =>
    rw [List.cons_append, List.nil_append, verbatimLength, List.length_singleton] at h
    split at h
    · next hc =>
      subst hc
      split at h
      · omega
      · next hnext =>
        refine .closed rfl (fun d rest hd => ?_) rfl
        have hquote : d ≠ '"' := by
          rcases hd with rfl | hd
          · exact hnext
          · exact hd
        rw [List.cons_append, List.nil_append, verbatimLength, if_pos rfl, if_neg hquote]
        rfl
    · have hpos := verbatimLength_pos next rest
      omega
  | case3 body ih =>
    refine Ends.step ['"', '"'] (fun t => ?_) ih h
    rw [verbatimLength.eq_def]
    exact (if_pos rfl).trans (if_pos rfl)
  | case4 d body hd =>
    rw [List.cons_append, List.cons_append, verbatimLength, if_pos rfl, if_neg hd] at h
    cases h
  | case5 c d body hc ih =>
    exact Ends.step [c] (fun t => verbatimLength_skip hc (d :: body ++ t)) ih h

end Verbatim

section Interpolated

variable {isVerbatim inText : Bool} {depth : Nat} {next : CodePoint} {body rest : Text}

/-- Nothing is taken in front of a line end outside all holes only. -/
theorem interpolatedLength_eq_zero
    (h : interpolatedLength isVerbatim depth inText (next :: rest) = 0) :
    depth = 0 ∧ next = '\n' ∧
      ∀ later, interpolatedLength isVerbatim depth inText (next :: later) = 0 := by
  generalize hwhole : next :: rest = whole at h
  fun_induction interpolatedLength isVerbatim depth inText whole with
  | case1 => cases hwhole
  | case7 inText c body hescape hquote hline =>
    cases hwhole
    refine ⟨rfl, hline.1, fun later => ?_⟩
    rw [interpolatedLength.eq_def]
    exact (if_pos rfl).trans ((if_neg hescape).trans ((if_neg hquote).trans (if_pos hline)))
  | _ => omega

/-- An interpolated literal ends with its quote or, if it is not verbatim, in front of a line
end. -/
theorem ends_interpolatedLength
    (h : interpolatedLength isVerbatim depth inText (body ++ next :: rest) = body.length) :
    Ends (interpolatedLength isVerbatim depth inText) '"' next body := by
  fun_induction interpolatedLength isVerbatim depth inText body with
  | case1 depth inText =>
    obtain ⟨_, hnext, hscan⟩ := interpolatedLength_eq_zero h
    exact .cutOff hnext hscan rfl
  -- outside of holes: only here a quote closes the literal and a line end cuts it off
  | case2 inText c hc =>
    rw [List.cons_append, List.nil_append, interpolatedLength, if_pos rfl, if_pos hc,
      List.length_singleton] at h
    omega
  | case3 inText c hc second body ih =>
    refine Ends.step [c, second] (fun t => ?_) ih h
    rw [interpolatedLength.eq_def]
    exact (if_pos rfl).trans (if_pos hc)
  | case4 inText hescape =>
    rw [List.cons_append, List.nil_append, interpolatedLength, if_pos rfl, if_neg hescape,
      if_pos rfl, List.length_singleton] at h
    split at h
    · omega
    · next hdouble =>
      refine .closed rfl (fun d rest hd => ?_) ?_
      · have hsingle : ¬ (isVerbatim = true ∧ d = '"') := by
          rcases hd with rfl | hd
          · exact hdouble
          · exact fun h => hd h.2
        rw [List.cons_append, List.nil_append, interpolatedLength, if_pos rfl, if_neg hescape,
          if_pos rfl, if_neg hsingle]
        rfl
      · rw [interpolatedLength, if_pos rfl, if_neg hescape, if_pos rfl]
        rfl
  | case5 inText second body hdouble hescape ih =>
    refine Ends.step ['"', second] (fun t => ?_) ih h
    rw [interpolatedLength.eq_def]
    exact (if_pos rfl).trans ((if_neg hescape).trans ((if_pos rfl).trans (if_pos hdouble)))
  | case6 inText second body hdouble hescape =>
    rw [List.cons_append, List.cons_append, interpolatedLength, if_pos rfl, if_neg hescape,
      if_pos rfl, if_neg hdouble] at h
    cases h
  | case7 inText c body hescape hquote hline =>
    rw [List.cons_append, interpolatedLength.eq_def] at h
    cases ((if_pos rfl).trans
      ((if_neg hescape).trans ((if_neg hquote).trans (if_pos hline)))).symm.trans h
  | case8 inText hescape hquote hline =>
    rw [List.cons_append, List.nil_append, interpolatedLength, if_pos rfl, if_neg hescape,
      if_neg hquote, if_neg hline, if_pos rfl, List.length_singleton] at h
    split at h
    · omega
    · cases (interpolatedLength_eq_zero (Nat.add_left_cancel h)).1
  | case9 inText body hescape hquote hline ih =>
    refine Ends.step ['{', '{'] (fun t => ?_) ih h
    rw [interpolatedLength.eq_def]
    exact (if_pos rfl).trans ((if_neg hescape).trans ((if_neg hquote).trans
      ((if_neg hline).trans ((if_pos rfl).trans (if_pos rfl)))))
  | case10 inText second body hsecond hescape hquote hline ih =>
    refine Ends.step ['{'] (fun t => ?_) ih h
    rw [interpolatedLength.eq_def]
    exact (if_pos rfl).trans ((if_neg hescape).trans ((if_neg hquote).trans
      ((if_neg hline).trans ((if_pos rfl).trans (if_neg hsecond)))))
  | case11 inText c body hescape hquote hline hbrace ih =>
    refine Ends.step [c] (fun t => ?_) ih h
    rw [interpolatedLength.eq_def]
    exact (if_pos rfl).trans ((if_neg hescape).trans ((if_neg hquote).trans
      ((if_neg hline).trans (if_neg hbrace))))
  -- in a hole, inside a literal: every code point is passed over
  | case12 depth hdepth =>
    rw [List.cons_append, List.nil_append, interpolatedLength, if_neg hdepth, if_pos rfl,
      if_pos rfl, List.length_singleton] at h
    omega
  | case13 depth hdepth second body ih =>
    refine Ends.step ['\\', second] (fun t => ?_) ih h
    rw [interpolatedLength.eq_def]
    exact (if_neg hdepth).trans ((if_pos rfl).trans (if_pos rfl))
  | case14 depth c body hdepth hescape ih =>
    refine Ends.step [c] (fun t => ?_) ih h
    rw [interpolatedLength.eq_def]
    exact (if_neg hdepth).trans ((if_pos rfl).trans (if_neg hescape))
  -- in a hole, outside of literals: braces open and close holes
  | case15 depth inText body hdepth htext ih =>
    refine Ends.step ['"'] (fun t => ?_) ih h
    rw [interpolatedLength.eq_def]
    exact (if_neg hdepth).trans ((if_neg htext).trans (if_pos rfl))
  | case16 depth inText body hdepth htext hquote ih =>
    refine Ends.step ['{'] (fun t => ?_) ih h
    rw [interpolatedLength.eq_def]
    exact (if_neg hdepth).trans ((if_neg htext).trans ((if_neg hquote).trans (if_pos rfl)))
  | case17 depth inText body hdepth htext hquote hbrace ih =>
    refine Ends.step ['}'] (fun t => ?_) ih h
    rw [interpolatedLength.eq_def]
    exact (if_neg hdepth).trans ((if_neg htext).trans ((if_neg hquote).trans
      ((if_neg hbrace).trans (if_pos rfl))))
  | case18 depth inText c body hdepth htext hquote hopen hclose ih =>
    refine Ends.step [c] (fun t => ?_) ih h
    rw [interpolatedLength.eq_def]
    exact (if_neg hdepth).trans ((if_neg htext).trans ((if_neg hquote).trans
      ((if_neg hopen).trans (if_neg hclose))))

end Interpolated

/-- The mark that ends a block comment is taken. -/
theorem two_le_of_blockEnd? {t : Text} {length : Nat} (h : blockEnd? t = some length) :
    2 ≤ length := by
  fun_induction blockEnd? t generalizing length with
  | case1 => cases h
  | case2 => cases h
  | case3 =>
    cases h
    exact Nat.le_refl 2
  | case4 c d rest _ ih =>
    obtain ⟨later, hlater, rfl⟩ := Option.map_eq_some_iff.mp h
    exact Nat.le_succ_of_le (ih hlater)

/-- A block comment ends with its mark, whatever follows. -/
theorem blockEnd?_append {body next : Text} (h : blockEnd? (body ++ next) = some body.length)
    (later : Text) : blockEnd? (body ++ later) = some body.length := by
  fun_induction blockEnd? body with
  | case1 => exact absurd (two_le_of_blockEnd? h) (by decide)
  | case2 c => exact absurd (two_le_of_blockEnd? h) (by simp)
  | case3 c d body hend =>
    rw [List.cons_append, List.cons_append, blockEnd?, if_pos hend] at h ⊢
    exact h
  | case4 c d body hend ih =>
    rw [List.cons_append, List.cons_append, blockEnd?, if_neg hend] at h ⊢
    obtain ⟨length, hlength, hsucc⟩ := Option.map_eq_some_iff.mp h
    cases hsucc
    rw [← List.cons_append, ih hlength]
    rfl

end TemplateLint.Source
