import TemplateLint.Proofs.Basic
import TemplateLint.Proofs.Source.Range
import TemplateLint.Proofs.Text.Part

/-!
# Balanced brackets

A text is balanced if its brackets close in the order in which they open. Main statements:
the bracket that closes another one is the one behind a balanced text, and the search finds
it if and only if there is one; and a balanced text is cut at its outer commas into balanced
parts without outer commas, which are the parts of every text that is put together from them.
-/

namespace TemplateLint.Source

/-- A text whose brackets match. -/
inductive Balanced : Text → Prop
  /-- The empty text. -/
  | nil : Balanced []
  /-- A code point that is no bracket comes first. -/
  | skip {c : CodePoint} {rest : Text} (hopen : closer? c = none) (hclose : isCloser c = false)
      (hrest : Balanced rest) : Balanced (c :: rest)
  /-- A pair of brackets comes first. -/
  | pair {c closer : CodePoint} {inner rest : Text} (hopen : closer? c = some closer)
      (hinner : Balanced inner) (hrest : Balanced rest) :
    Balanced (c :: (inner ++ closer :: rest))

/-- A bracket that closes another one is a closing bracket and no opening one. -/
theorem isCloser_of_closer? {c closer : CodePoint} (h : closer? c = some closer) :
    closer? closer = none ∧ isCloser closer = true := by
  unfold closer? at h
  split at h
  · cases h
    decide
  · split at h
    · cases h
      decide
    · split at h
      · cases h
        decide
      · cases h

section Steps

variable {offset : Nat} {awaited : List CodePoint} {c : CodePoint} {rest : Text}

/-- A code point that is no bracket is passed over. -/
theorem closingFrom_skip (hopen : closer? c = none) (hclose : isCloser c = false) :
    closingFrom offset awaited (c :: rest) = closingFrom (offset + 1) awaited rest := by
  cases awaited <;> simp [closingFrom, hopen, hclose]

/-- An opening bracket awaits its closing one. -/
theorem closingFrom_open {closer : CodePoint} (hopen : closer? c = some closer) :
    closingFrom offset awaited (c :: rest) =
      closingFrom (offset + 1) (closer :: awaited) rest := by
  cases awaited <;> simp [closingFrom, hopen]

/-- The closing bracket that is awaited ends the search if no other one is. -/
theorem closingFrom_close (hopen : closer? c = none) (hclose : isCloser c = true) :
    closingFrom offset (c :: awaited) (c :: rest) =
      if awaited = [] then some offset else closingFrom (offset + 1) awaited rest := by
  simp [closingFrom, hopen, hclose]

end Steps

/-- The brackets that are awaited are still awaited after a balanced text. -/
theorem closingFrom_append {u : Text} (h : Balanced u) {awaited : List CodePoint}
    (hawaited : awaited ≠ []) (offset : Nat) (v : Text) :
    closingFrom offset awaited (u ++ v) = closingFrom (offset + u.length) awaited v := by
  induction h generalizing awaited offset v with
  | nil => rfl
  | @skip c rest hopen hclose _ ih =>
    rw [List.cons_append, closingFrom_skip hopen hclose, ih hawaited, List.length_cons,
      Nat.add_assoc, Nat.add_comm 1]
  | @pair c closer inner rest hopen _ _ ihinner ihrest =>
    obtain ⟨hnone, hcloser⟩ := isCloser_of_closer? hopen
    rw [List.cons_append, closingFrom_open hopen, List.append_assoc,
      ihinner (List.cons_ne_nil _ _), List.cons_append, closingFrom_close hnone hcloser,
      if_neg hawaited, ihrest hawaited]
    congr 1
    simp only [List.length_cons, List.length_append]
    omega

/-- The bracket behind a balanced text closes the one in front of it. -/
theorem findClosing_of_balanced {before inner rest : Text} {c closer : CodePoint}
    (hopen : closer? c = some closer) (hinner : Balanced inner) :
    findClosing (before ++ c :: (inner ++ closer :: rest)) before.length =
      some (before.length + 1 + inner.length) := by
  obtain ⟨hnone, hcloser⟩ := isCloser_of_closer? hopen
  rw [findClosing, List.drop_left, closingFrom_open hopen,
    closingFrom_append hinner (List.cons_ne_nil _ _), closingFrom_close hnone hcloser, if_pos rfl]

/-- The innermost bracket that is awaited closes a balanced text; the others are awaited
behind it. -/
theorem balanced_of_closingFrom {t : Text} {offset closing : Nat} {closer : CodePoint}
    {awaited : List CodePoint} (h : closingFrom offset (closer :: awaited) t = some closing) :
    ∃ inner rest, t = inner ++ closer :: rest ∧ Balanced inner ∧
      if awaited = [] then closing = offset + inner.length
      else closingFrom (offset + inner.length + 1) awaited rest = some closing := by
  match t with
  | [] => cases h
  | c :: rest =>
    rw [closingFrom] at h
    split at h
    · next opened hopen =>
      -- the text continues with a pair, behind which the bracket is still awaited
      obtain ⟨inner, behind, hpair, hinner, hbehind⟩ := balanced_of_closingFrom h
      rw [if_neg (List.cons_ne_nil _ _)] at hbehind
      have hshorter : behind.length < rest.length := by
        rw [hpair, List.length_append, List.length_cons]
        omega
      obtain ⟨later, behind, rfl, hlater, hclosing⟩ := balanced_of_closingFrom hbehind
      refine ⟨c :: (inner ++ opened :: later), behind, by simp [hpair],
        .pair hopen hinner hlater, ?_⟩
      have hlength : (c :: (inner ++ opened :: later)).length =
          1 + inner.length + 1 + later.length := by
        simp only [List.length_cons, List.length_append]
        omega
      rw [hlength]
      simpa only [Nat.add_assoc] using hclosing
    · next hopen =>
      split at h
      · split at h
        · cases h
        · next hsame =>
          cases Decidable.not_not.mp hsame
          refine ⟨[], rest, rfl, .nil, ?_⟩
          split at h
          · next houter =>
            cases h
            rw [if_pos houter]
            rfl
          · next houter =>
            rw [if_neg houter]
            exact h
      · next hclose =>
        obtain ⟨inner, rest, rfl, hinner, hclosing⟩ := balanced_of_closingFrom h
        refine ⟨c :: inner, rest, rfl, .skip hopen (Bool.eq_false_iff.mpr hclose) hinner, ?_⟩
        rw [List.length_cons, Nat.add_comm inner.length, ← Nat.add_assoc]
        exact hclosing
termination_by t.length
decreasing_by
  all_goals simp only [List.length_cons]
  all_goals omega

/-- A bracket that is closed is followed by a balanced text and its closing bracket. -/
theorem exists_balanced_of_findClosing {t : Text} {start closing : Nat} {c closer : CodePoint}
    (hc : t[start]? = some c) (hopen : closer? c = some closer)
    (h : findClosing t start = some closing) :
    ∃ before inner rest, t = before ++ c :: (inner ++ closer :: rest) ∧ before.length = start ∧
      closing = start + 1 + inner.length ∧ Balanced inner := by
  obtain ⟨hlt, hget⟩ := List.getElem?_eq_some_iff.mp hc
  rw [findClosing, List.drop_eq_getElem_cons hlt, hget, closingFrom_open hopen] at h
  obtain ⟨inner, rest, hrest, hinner, hclosing⟩ := balanced_of_closingFrom h
  rw [if_pos rfl] at hclosing
  refine ⟨t.take start, inner, rest, ?_, List.length_take_of_le (Nat.le_of_lt hlt), hclosing,
    hinner⟩
  rw [← hrest, ← hget, ← List.drop_eq_getElem_cons hlt, List.take_append_drop]

/-- A bracket is closed at a later offset: its closing bracket stands there, with a balanced text
in front of it. -/
structure ClosedAt (t : Text) (start : Nat) (closer : CodePoint) (closing : Nat) : Prop where
  /-- The closing bracket stands behind the bracket. -/
  start_lt : start < closing
  /-- The text between the two is balanced. -/
  balanced : Balanced (t.slice (start + 1) closing)
  /-- The closing bracket is the one that is awaited. -/
  getElem?_eq : t[closing]? = some closer

section Closed

variable {t : Text} {start closing : Nat} {c closer : CodePoint}

/-- The bracket that the search finds closes the one at the offset. -/
theorem closedAt_of_findClosing (hc : t[start]? = some c) (hopen : closer? c = some closer)
    (h : findClosing t start = some closing) : ClosedAt t start closer closing := by
  obtain ⟨before, inner, rest, rfl, rfl, rfl, hinner⟩ := exists_balanced_of_findClosing hc hopen h
  refine ⟨by omega, ?_, ?_⟩
  · have hslice := Text.slice_append_append (before ++ [c]) inner (closer :: rest)
    rw [List.length_append, List.length_singleton, List.append_assoc, List.singleton_append]
      at hslice
    rw [hslice]
    exact hinner
  · have hplace : before.length + 1 + inner.length - before.length = inner.length + 1 := by omega
    rw [List.getElem?_append_right (by omega), hplace, List.getElem?_cons_succ,
      List.getElem?_append_right (Nat.le_refl _), Nat.sub_self, List.getElem?_cons_zero]

namespace ClosedAt

/-- What stands around a bracket that is closed. -/
theorem text_eq (h : ClosedAt t start closer closing) (hc : t[start]? = some c) :
    t = t.take start ++
      c :: (t.slice (start + 1) closing ++ closer :: t.drop (closing + 1)) := by
  obtain ⟨hstart, hget⟩ := List.getElem?_eq_some_iff.mp hc
  obtain ⟨hclosing, hget'⟩ := List.getElem?_eq_some_iff.mp h.getElem?_eq
  have hback : closer :: t.drop (closing + 1) =
      (t.drop (start + 1)).drop (closing - (start + 1)) := by
    rw [List.drop_drop, Nat.add_sub_cancel' h.start_lt, ← hget', List.drop_eq_getElem_cons hclosing]
  rw [hback, Text.slice, List.take_append_drop, ← hget, ← List.drop_eq_getElem_cons hstart,
    List.take_append_drop]

/-- The search finds where a bracket is closed. -/
theorem findClosing_eq (h : ClosedAt t start closer closing) (hc : t[start]? = some c)
    (hopen : closer? c = some closer) : findClosing t start = some closing := by
  have hlt := h.start_lt
  have hclosing := (List.getElem?_eq_some_iff.mp h.getElem?_eq).1
  have hfront : (t.take start).length = start := List.length_take_of_le (by omega)
  have hinner : (t.slice (start + 1) closing).length = closing - (start + 1) := by
    rw [Text.slice, List.length_take, List.length_drop]
    omega
  have hsum : start + 1 + (closing - (start + 1)) = closing := by omega
  have hfound : findClosing (t.take start ++
      c :: (t.slice (start + 1) closing ++ closer :: t.drop (closing + 1))) (t.take start).length =
      some ((t.take start).length + 1 + (t.slice (start + 1) closing).length) :=
    findClosing_of_balanced hopen h.balanced
  rw [← h.text_eq hc, hfront, hinner, hsum] at hfound
  exact hfound

end ClosedAt

end Closed

/-- Brackets are matched exactly. If an opening bracket stands at an offset, the search finds an
offset if and only if the bracket is closed there, and it finds nothing if and only if the
bracket is closed nowhere. -/
theorem findClosing_matches {t : Text} {start : Nat} {c closer : CodePoint}
    (hc : t[start]? = some c) (hopen : closer? c = some closer) :
    (∀ closing, findClosing t start = some closing ↔ ClosedAt t start closer closing) ∧
      (findClosing t start = none ↔ ¬ ∃ closing, ClosedAt t start closer closing) := by
  have hfound : ∀ closing, findClosing t start = some closing ↔
      ClosedAt t start closer closing :=
    fun _ => ⟨closedAt_of_findClosing hc hopen, fun h => h.findClosing_eq hc hopen⟩
  refine ⟨hfound, ?_⟩
  rw [Option.eq_none_iff_forall_ne_some, not_exists]
  exact forall_congr' fun closing => not_congr (hfound closing)

/-- A parenthesis around brackets of all kinds is closed, and one that crosses another pair is
closed nowhere. -/
theorem findClosing_matches_kinds :
    let t : Text := "f(a[1], \x7b(b)\x7d) )"
    t[1]? = some (CodePoint.ofChar '(') ∧ findClosing t 1 = some 13 ∧ ClosedAt t 1 ')' 13 ∧
      ¬ ∃ closing, ClosedAt "([)]" 0 ')' closing := by
  intro t
  have hc : t[1]? = some (CodePoint.ofChar '(') := by decide
  have hfound : findClosing t 1 = some 13 := by decide
  have hnone : findClosing "([)]" 0 = none := by decide
  exact ⟨hc, hfound, ((findClosing_matches hc rfl).1 13).mp hfound,
    (findClosing_matches (c := '(') rfl rfl).2.mp hnone⟩

/-- A bracket that opens in a balanced text closes in it. -/
theorem Balanced.exists_closing {t u v : Text} {c closer : CodePoint} (h : Balanced t)
    (ht : t = u ++ c :: v) (hopen : closer? c = some closer) :
    ∃ inner rest, v = inner ++ closer :: rest ∧ Balanced inner := by
  induction h generalizing u v with
  | nil => simp at ht
  | @skip d rest hnone _ _ ih =>
    rcases List.cons_eq_append_iff.mp ht with ⟨rfl, hhead⟩ | ⟨front, rfl, hlater⟩
    · obtain ⟨rfl, _⟩ := List.cons.inj hhead
      cases hnone.symm.trans hopen
    · exact ih hlater
  | @pair d last inner rest hfirst hinner _ ihinner ihrest =>
    have hne : last ≠ c := by
      rintro rfl
      cases (isCloser_of_closer? hfirst).1.symm.trans hopen
    rcases List.cons_eq_append_iff.mp ht with ⟨rfl, hhead⟩ | ⟨front, rfl, hlater⟩
    · obtain ⟨rfl, rfl⟩ := List.cons.inj hhead
      cases hfirst.symm.trans hopen
      exact ⟨inner, rest, rfl, hinner⟩
    -- behind the first bracket the opening one stands in the pair or behind the pair
    · rcases List.append_eq_append_iff.mp hlater with ⟨more, rfl, hmore⟩ | ⟨more, hfront, hmore⟩
      · rcases List.cons_eq_append_iff.mp hmore with ⟨rfl, hhead⟩ | ⟨more, rfl, hbehind⟩
        · exact absurd (List.cons.inj hhead).1.symm hne
        · exact ihrest hbehind
      · rcases List.cons_eq_append_iff.mp hmore with ⟨rfl, hhead⟩ | ⟨more, rfl, hbehind⟩
        · exact absurd (List.cons.inj hhead).1 hne
        · obtain ⟨closed, behind, rfl, hclosed⟩ := ihinner hfront
          refine ⟨closed, behind ++ last :: rest, ?_, hclosed⟩
          rw [hbehind, List.append_assoc, List.cons_append]

/-- A bracket that opens between another one and the one that closes it is closed there too. -/
theorem ClosedAt.exists_closedAt {t : Text} {start closing inner : Nat} {c closer last : CodePoint}
    (h : ClosedAt t start last closing) (hafter : start < inner) (hbefore : inner < closing)
    (hc : t[inner]? = some c) (hopen : closer? c = some closer) :
    ∃ stop, ClosedAt t inner closer stop ∧ stop < closing := by
  obtain ⟨hinner, hget⟩ := List.getElem?_eq_some_iff.mp hc
  have hcut : t.slice (start + 1) closing =
      t.slice (start + 1) inner ++ c :: t.slice (inner + 1) closing := by
    have hlength : closing - inner = closing - (inner + 1) + 1 := by omega
    rw [← Text.slice_append_slice (t := t) hafter (Nat.le_of_lt hbefore)]
    congr 1
    rw [Text.slice, Text.slice, List.drop_eq_getElem_cons hinner, hget, hlength,
      List.take_succ_cons]
  obtain ⟨u, v, hv, hu⟩ := h.balanced.exists_closing hcut hopen
  have hclosing := (List.getElem?_eq_some_iff.mp h.getElem?_eq).1
  have hlength := congrArg List.length hv
  rw [Text.length_slice (Nat.le_of_lt hclosing), List.length_append, List.length_cons] at hlength
  -- the closing bracket stands behind the balanced text that follows the opening one
  have hplace : ∀ i, i < closing - (inner + 1) → t[inner + 1 + i]? = (u ++ closer :: v)[i]? := by
    intro i hi
    rw [← hv, Text.slice, List.getElem?_take_of_lt hi, List.getElem?_drop]
  refine ⟨inner + 1 + u.length, ⟨by omega, ?_, ?_⟩, by omega⟩
  · have hfront : t.slice (inner + 1) (inner + 1 + u.length) = u := by
      have htake := congrArg (List.take u.length) hv
      rw [List.take_left, Text.slice, List.take_take, Nat.min_eq_left (by omega)] at htake
      rw [Text.slice, Nat.add_sub_cancel_left, htake]
    rw [hfront]
    exact hu
  · rw [hplace _ (by omega), List.getElem?_append_right (Nat.le_refl _), Nat.sub_self,
      List.getElem?_cons_zero]

/-- A text is balanced if and only if a parenthesis in front of it is closed behind it. -/
theorem balanced_iff_findClosing {t : Text} :
    Balanced t ↔ findClosing ('(' :: (t ++ [CodePoint.ofChar ')'])) 0 = some (t.length + 1) := by
  constructor
  · intro h
    have hfound : findClosing ([] ++ CodePoint.ofChar '(' :: (t ++ CodePoint.ofChar ')' :: []))
        ([] : Text).length = some (([] : Text).length + 1 + t.length) :=
      findClosing_of_balanced rfl h
    rw [List.length_nil, Nat.zero_add, Nat.add_comm] at hfound
    exact hfound
  · intro h
    obtain ⟨before, inner, rest, hwhole, hbefore, hlength, hinner⟩ :=
      exists_balanced_of_findClosing (c := '(') rfl rfl h
    cases List.length_eq_zero_iff.mp hbefore
    have happend : t ++ [CodePoint.ofChar ')'] = inner ++ CodePoint.ofChar ')' :: rest :=
      (List.cons.inj hwhole).2
    rw [(List.append_inj happend (by omega)).1]
    exact hinner

instance : DecidablePred Balanced := fun _ => decidable_of_iff _ balanced_iff_findClosing.symm

-- brackets of two kinds may not cross
example : Balanced "a[1](x)" ∧ ¬ Balanced "([)]" := by decide

/-- A balanced text without commas outside its brackets. -/
inductive Uncut : Text → Prop
  /-- The empty text. -/
  | nil : Uncut []
  /-- A code point that is neither a bracket nor a comma comes first. -/
  | skip {c : CodePoint} {rest : Text} (hopen : closer? c = none) (hclose : isCloser c = false)
      (hcomma : c ≠ ',') (hrest : Uncut rest) : Uncut (c :: rest)
  /-- A pair of brackets comes first. -/
  | pair {c closer : CodePoint} {inner rest : Text} (hopen : closer? c = some closer)
      (hinner : Balanced inner) (hrest : Uncut rest) : Uncut (c :: (inner ++ closer :: rest))

/-- Add a text to the front of the first part. -/
def attach (front : Text) : List Text → List Text
  | [] => [front]
  | part :: parts => (front ++ part) :: parts

/-- There is always a part, so nothing is added by the empty text. -/
theorem attach_nil_commaParts (depth : Int) (t : Text) :
    attach [] (commaParts depth t) = commaParts depth t := by
  cases hparts : commaParts depth t with
  | nil =>
    have hlength := length_commaParts depth t
    rw [hparts] at hlength
    cases hlength
  | cons part parts => rfl

/-- Two texts are added one after the other. -/
theorem attach_attach (front middle : Text) (parts : List Text) :
    attach front (attach middle parts) = attach (front ++ middle) parts := by
  cases parts with
  | nil => rfl
  | cons part parts => simp only [attach, List.append_assoc]

section Steps

variable {depth : Int} {c : CodePoint} {rest : Text}

/-- A code point that is neither a bracket nor an outer comma belongs to the first part. -/
theorem commaParts_skip (hopen : closer? c = none) (hclose : isCloser c = false)
    (hcomma : ¬ (c = ',' ∧ depth = 0)) :
    commaParts depth (c :: rest) = attach [c] (commaParts depth rest) := by
  rw [commaParts, if_neg hcomma, hopen, hclose]
  cases hparts : commaParts depth rest <;> simp [attach, hparts]

/-- An opening bracket belongs to the first part and adds to the depth. -/
theorem commaParts_open {closer : CodePoint} (hopen : closer? c = some closer) :
    commaParts depth (c :: rest) = attach [c] (commaParts (depth + 1) rest) := by
  have hcomma : ¬ (c = ',' ∧ depth = 0) := by
    rintro ⟨rfl, _⟩
    cases hopen
  rw [commaParts, if_neg hcomma, hopen]
  cases hparts : commaParts (depth + 1) rest <;> simp [attach, hparts]

/-- A closing bracket belongs to the first part and takes from the depth. -/
theorem commaParts_close (hopen : closer? c = none) (hclose : isCloser c = true) :
    commaParts depth (c :: rest) = attach [c] (commaParts (depth - 1) rest) := by
  have hcomma : ¬ (c = ',' ∧ depth = 0) := by
    rintro ⟨rfl, _⟩
    cases hclose
  rw [commaParts, if_neg hcomma, hopen, hclose]
  cases hparts : commaParts (depth - 1) rest <;> simp [attach, hparts]

end Steps

/-- Inside brackets a balanced text belongs to the first part. -/
theorem commaParts_balanced {u : Text} (h : Balanced u) {depth : Int} (hdepth : 0 < depth)
    (v : Text) : commaParts depth (u ++ v) = attach u (commaParts depth v) := by
  induction h generalizing depth v with
  | nil => exact (attach_nil_commaParts depth v).symm
  | @skip c rest hopen hclose _ ih =>
    rw [List.cons_append, commaParts_skip hopen hclose (by omega), ih hdepth, attach_attach]
    rfl
  | @pair c closer inner rest hopen _ _ ihinner ihrest =>
    obtain ⟨hnone, hcloser⟩ := isCloser_of_closer? hopen
    rw [List.cons_append, commaParts_open hopen, List.append_assoc, ihinner (by omega),
      List.cons_append, commaParts_close hnone hcloser, Int.add_sub_cancel, ihrest hdepth,
      attach_attach, attach_attach, attach_attach]
    congr 1
    simp only [List.cons_append, List.nil_append, List.append_assoc]

/-- A text without outer commas belongs to the first part. -/
theorem commaParts_uncut {u : Text} (h : Uncut u) (v : Text) :
    commaParts 0 (u ++ v) = attach u (commaParts 0 v) := by
  induction h with
  | nil => exact (attach_nil_commaParts 0 v).symm
  | @skip c rest hopen hclose hcomma _ ih =>
    rw [List.cons_append, commaParts_skip hopen hclose (fun h => hcomma h.1), ih, attach_attach]
    rfl
  | @pair c closer inner rest hopen hinner _ ih =>
    obtain ⟨hnone, hcloser⟩ := isCloser_of_closer? hopen
    rw [List.cons_append, commaParts_open hopen, List.append_assoc,
      commaParts_balanced hinner (by omega), List.cons_append, commaParts_close hnone hcloser,
      Int.add_sub_cancel, ih, attach_attach, attach_attach, attach_attach]
    congr 1
    simp only [List.cons_append, List.nil_append, List.append_assoc]

namespace Uncut

/-- Texts without outer commas may be put together. -/
theorem append {u v : Text} (hu : Uncut u) (hv : Uncut v) : Uncut (u ++ v) := by
  induction hu with
  | nil => exact hv
  | skip hopen hclose hcomma _ ih => exact .skip hopen hclose hcomma ih
  | pair hopen hinner _ ih =>
    rw [List.cons_append, List.append_assoc, List.cons_append]
    exact .pair hopen hinner ih

/-- A text without outer commas may stand in front of a balanced one. -/
theorem balanced_append {u v : Text} (hu : Uncut u) (hv : Balanced v) : Balanced (u ++ v) := by
  induction hu with
  | nil => exact hv
  | skip hopen hclose _ _ ih => exact .skip hopen hclose ih
  | pair hopen hinner _ ih =>
    rw [List.cons_append, List.append_assoc, List.cons_append]
    exact .pair hopen hinner ih

/-- A text without outer commas is balanced. -/
theorem balanced {t : Text} (h : Uncut t) : Balanced t :=
  List.append_nil t ▸ h.balanced_append .nil

end Uncut

/-- A blank is neither a bracket nor a comma. -/
theorem not_bracket_of_isBlank {c : CodePoint} (h : c.isBlank = true) :
    closer? c = none ∧ isCloser c = false ∧ c ≠ ',' := by
  have hne : ∀ d : CodePoint, d.isBlank = false → c ≠ d := by
    rintro d hd rfl
    cases h.symm.trans hd
  refine ⟨?_, ?_, hne _ (by decide)⟩
  · rw [closer?, if_neg (hne _ (by decide)), if_neg (hne _ (by decide)),
      if_neg (hne _ (by decide))]
  · simp [isCloser, hne _ (show (CodePoint.ofChar ')').isBlank = false by decide),
      hne _ (show (CodePoint.ofChar ']').isBlank = false by decide),
      hne _ (show (CodePoint.ofChar '}').isBlank = false by decide)]

namespace Uncut

/-- Blanks are a text without outer commas. -/
theorem of_blank {t : Text} (h : ∀ c ∈ t, c.isBlank = true) : Uncut t := by
  induction t with
  | nil => exact .nil
  | cons c rest ih =>
    obtain ⟨hopen, hclose, hcomma⟩ := not_bracket_of_isBlank (h c List.mem_cons_self)
    exact .skip hopen hclose hcomma (ih fun d hd => h d (List.mem_cons_of_mem c hd))

/-- Blanks in front may be dropped. -/
theorem of_blank_append {u v : Text} (hblank : ∀ c ∈ u, c.isBlank = true) (h : Uncut (u ++ v)) :
    Uncut v := by
  induction u with
  | nil => exact h
  | cons c u ih =>
    have hnone := (not_bracket_of_isBlank (hblank c List.mem_cons_self)).1
    generalize hwhole : c :: u ++ v = whole at h
    cases h with
    | nil => cases hwhole
    | skip _ _ _ hrest =>
      cases hwhole
      exact ih (fun d hd => hblank d (List.mem_cons_of_mem c hd)) hrest
    | pair hopen =>
      cases (List.cons.inj hwhole).1
      cases hnone.symm.trans hopen

/-- Blanks behind may be dropped. -/
theorem of_append_blank {u v : Text} (hblank : ∀ c ∈ v, c.isBlank = true) (h : Uncut (u ++ v)) :
    Uncut u := by
  generalize hwhole : u ++ v = whole at h
  induction h generalizing u with
  | nil =>
    rw [(List.append_eq_nil_iff.mp hwhole).1]
    exact .nil
  | @skip c rest hopen hclose hcomma _ ih =>
    rcases List.append_eq_cons_iff.mp hwhole with ⟨rfl, _⟩ | ⟨front, rfl, hrest⟩
    · exact .nil
    · exact .skip hopen hclose hcomma (ih hrest.symm)
  | @pair c closer inner rest hopen hinner _ ih =>
    -- the closing bracket is not blank, so it stands in front of the blanks
    have hcloser : closer ∉ v := by
      intro hmem
      have hblank := (not_bracket_of_isBlank (hblank closer hmem)).2.1
      cases hblank.symm.trans (isCloser_of_closer? hopen).2
    rcases List.append_eq_cons_iff.mp hwhole with ⟨rfl, _⟩ | ⟨front, rfl, hrest⟩
    · exact .nil
    · rcases List.append_eq_append_iff.mp hrest with ⟨behind, rfl, hbehind⟩ | ⟨behind, _, rfl⟩
      · rcases List.cons_eq_append_iff.mp hbehind with ⟨_, rfl⟩ | ⟨later, rfl, hlater⟩
        · exact absurd List.mem_cons_self hcloser
        · exact .pair hopen hinner (ih hlater.symm)
      · exact absurd (List.mem_append_right _ List.mem_cons_self) hcloser

end Uncut

/-- Parts with a comma in front of each. -/
def commaTail (parts : List Text) : Text :=
  parts.flatMap fun part => ',' :: part

/-- A balanced text is cut at its outer commas. -/
theorem Balanced.exists_parts {t : Text} (h : Balanced t) :
    ∃ first later, t = first ++ commaTail later ∧ ∀ part ∈ first :: later, Uncut part := by
  induction h with
  | nil => exact ⟨[], [], rfl, List.forall_mem_singleton.mpr .nil⟩
  | @skip c rest hopen hclose _ ih =>
    obtain ⟨first, later, rfl, huncut⟩ := ih
    by_cases hcomma : c = ','
    · refine ⟨[], first :: later, ?_, List.forall_mem_cons.mpr ⟨.nil, huncut⟩⟩
      rw [hcomma]
      rfl
    · obtain ⟨hfirst, hlater⟩ := List.forall_mem_cons.mp huncut
      exact ⟨c :: first, later, rfl,
        List.forall_mem_cons.mpr ⟨.skip hopen hclose hcomma hfirst, hlater⟩⟩
  | @pair c closer inner rest hopen hinner _ _ ih =>
    obtain ⟨first, later, rfl, huncut⟩ := ih
    obtain ⟨hfirst, hlater⟩ := List.forall_mem_cons.mp huncut
    refine ⟨c :: (inner ++ closer :: first), later, ?_,
      List.forall_mem_cons.mpr ⟨.pair hopen hinner hfirst, hlater⟩⟩
    simp only [List.cons_append, List.append_assoc]

/-- Parts without outer commas are what is found between the commas of the whole. -/
theorem commaParts_append_commaTail {first : Text} {later : List Text}
    (h : ∀ part ∈ first :: later, Uncut part) :
    commaParts 0 (first ++ commaTail later) = first :: later := by
  induction later generalizing first with
  | nil =>
    rw [commaParts_uncut (h first List.mem_cons_self)]
    exact congrArg (· :: []) (List.append_nil first)
  | cons second later ih =>
    obtain ⟨hfirst, hlater⟩ := List.forall_mem_cons.mp h
    have hcut : commaParts 0 (commaTail (second :: later)) = [] :: second :: later :=
      congrArg ([] :: ·) (ih hlater)
    rw [commaParts_uncut hfirst, hcut, attach, List.append_nil]

/-- Parts without outer commas make up a balanced text. -/
theorem balanced_append_commaTail {first : Text} {later : List Text}
    (h : ∀ part ∈ first :: later, Uncut part) : Balanced (first ++ commaTail later) := by
  induction later generalizing first with
  | nil => exact (h first List.mem_cons_self).balanced_append .nil
  | cons second later ih =>
    obtain ⟨hfirst, hlater⟩ := List.forall_mem_cons.mp h
    exact hfirst.balanced_append (.skip rfl rfl (ih hlater))

end TemplateLint.Source
