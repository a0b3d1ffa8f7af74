import TemplateLint.Proofs.Basic
import TemplateLint.Proofs.Template.Place

/-!
# Reading a template step by step

A template is read in three kinds of steps: a doubled brace gives one brace, a single code
point gives itself, and a property reaches from its opening brace to the next closing one.
A reading that succeeds is a run of such steps. A reading that fails is a run of such steps
in front of an opening brace whose property is refused. Both are equivalences, so every
other statement about readings is an induction over a run.
-/

namespace TemplateLint.Template

open Outcome

variable {start : Nat} {t front rest : Text} {found : List Piece} {rejection : Rejection}

/-- A run of steps that reads a whole text, whose first code point stands at an offset. -/
inductive Reads : Nat → Text → List Piece → Prop
  /-- Nothing is left. -/
  | nil {start : Nat} : Reads start [] []
  /-- Two braces of one kind are one. -/
  | doubled {start : Nat} {c : CodePoint} {rest : Text} {found : List Piece}
      (hc : c = '{' ∨ c = '}') (hrest : Reads (start + 2) rest found) :
    Reads start (c :: c :: rest) (.char c :: found)
  /-- A code point stands for itself, if it opens no brace and closes none that is doubled. -/
  | single {start : Nat} {c : CodePoint} {rest : Text} {found : List Piece}
      (hc : c ≠ '{') (halone : ¬ (c = '}' ∧ rest.head? = some (CodePoint.ofChar '}')))
      (hrest : Reads (start + 1) rest found) :
    Reads start (c :: rest) (.char c :: found)
  /-- A property reaches to the next closing brace. -/
  | hole {start : Nat} {body tail : Text} {hole : Property} {found : List Piece}
      (hhead : body.head? ≠ some (CodePoint.ofChar '{')) (hbody : CodePoint.ofChar '}' ∉ body)
      (hread : readProperty start body = .ok hole)
      (htail : Reads (start + (body.length + 2)) tail found) :
    Reads start ('{' :: (body ++ CodePoint.ofChar '}' :: tail)) (.property hole :: found)

/-- The property that opens at an offset is refused; what follows its brace is given. -/
inductive Refused (start : Nat) : Text → Rejection → Prop
  /-- No closing brace follows. -/
  | unclosed {rest : Text} (hrest : CodePoint.ofChar '}' ∉ rest) :
    Refused start rest (.malformed ⟨.unclosed, start, rest.length + 1⟩)
  /-- What stands up to the closing brace cannot be read. -/
  | body {body tail : Text} {rejection : Rejection} (hbody : CodePoint.ofChar '}' ∉ body)
      (hread : readProperty start body = .error rejection) :
    Refused start (body ++ CodePoint.ofChar '}' :: tail) rejection

/-- One step over a doubled brace. -/
theorem pieces_doubled {c : CodePoint} (hc : c = '{' ∨ c = '}') (start : Nat) (rest : Text) :
    pieces start (c :: c :: rest) = (pieces (start + 2) rest).map (.char c :: ·) := by
  have hhead : (c :: rest).head? = some c := List.head?_cons
  rw [pieces]
  rcases hc with rfl | rfl
  · rw [if_pos rfl, if_pos hhead, List.tail_cons]
  · rw [if_neg (by decide), if_pos ⟨rfl, hhead⟩, List.tail_cons]

/-- One step over a code point that stands for itself. -/
theorem pieces_single {c : CodePoint} (hc : c ≠ '{')
    (halone : ¬ (c = '}' ∧ rest.head? = some (CodePoint.ofChar '}'))) (start : Nat) :
    pieces start (c :: rest) = (pieces (start + 1) rest).map (.char c :: ·) := by
  rw [pieces, if_neg hc, if_neg halone]

/-- The first code point between the braces comes right after the opening one. -/
theorem head?_append_cons_ne {body : Text} (h : body.head? ≠ some (CodePoint.ofChar '{'))
    (tail : Text) :
    (body ++ CodePoint.ofChar '}' :: tail).head? ≠ some (CodePoint.ofChar '{') := by
  cases body with
  | nil => simp [CodePoint.ofChar]
  | cons c body => simpa using h

/-- One step over a property that can be read. -/
theorem pieces_hole {body : Text} {hole : Property}
    (hhead : body.head? ≠ some (CodePoint.ofChar '{')) (hbody : CodePoint.ofChar '}' ∉ body)
    (hread : readProperty start body = .ok hole) (tail : Text) :
    pieces start ('{' :: (body ++ CodePoint.ofChar '}' :: tail)) =
      (pieces (start + (body.length + 2)) tail).map (.property hole :: ·) := by
  have hcut := Text.cut?_append hbody tail
  have hlength := (place_of_readProperty hread).2
  rw [pieces, if_pos rfl, if_neg (head?_append_cons_ne hhead tail)]
  split
  · next hnone =>
    rw [hcut] at hnone
    cases hnone
  · next found later hsome =>
    rw [hcut] at hsome
    cases hsome
    rw [hread, ok_bind, hlength]
    rfl

/-- An opening brace whose property is refused ends the reading. -/
theorem Refused.pieces_eq (h : Refused start rest rejection)
    (hhead : rest.head? ≠ some (CodePoint.ofChar '{')) :
    pieces start ('{' :: rest) = .error rejection := by
  rw [pieces, if_pos rfl, if_neg hhead]
  cases h with
  | unclosed hrest =>
    have hcut := Text.cut?_of_not_mem hrest
    split
    · rfl
    · next body tail hsome =>
      rw [hcut] at hsome
      cases hsome
  | @body body tail _ hbody hread =>
    have hcut := Text.cut?_append hbody tail
    split
    · next hnone =>
      rw [hcut] at hnone
      cases hnone
    · next found later hsome =>
      rw [hcut] at hsome
      cases hsome
      rw [hread]
      rfl

/-- A run of steps is taken whatever follows it, unless a closing brace follows, which might
be paired with the last one of the run. -/
theorem Reads.pieces_append (h : Reads start front found) (rest : Text)
    (hrest : rest.head? ≠ some (CodePoint.ofChar '}')) :
    pieces start (front ++ rest) = (pieces (start + front.length) rest).map (found ++ ·) := by
  induction h with
  | nil => exact (congrFun Except.map_id _).symm
  | @doubled start c later found hc _ ih =>
    have hoffset : start + (c :: c :: later).length = start + 2 + later.length := by
      simp only [List.length_cons]
      omega
    rw [List.cons_append, List.cons_append, pieces_doubled hc, ih, map_map, hoffset]
    rfl
  | @single start c later found hc halone _ ih =>
    have hoffset : start + (c :: later).length = start + 1 + later.length := by
      simp only [List.length_cons]
      omega
    have halone : ¬ (c = '}' ∧ (later ++ rest).head? = some (CodePoint.ofChar '}')) := by
      rintro ⟨hclose, hhead⟩
      cases later with
      | nil => exact hrest hhead
      | cons d later => exact halone ⟨hclose, hhead⟩
    rw [List.cons_append, pieces_single hc halone, ih, map_map, hoffset]
    rfl
  | @hole start body tail hole found hhead hbody hread _ ih =>
    have hoffset : start + (CodePoint.ofChar '{' :: (body ++ CodePoint.ofChar '}' :: tail)).length =
        start + (body.length + 2) + tail.length := by
      simp only [List.length_cons, List.length_append]
      omega
    rw [List.cons_append, List.append_assoc, List.cons_append, pieces_hole hhead hbody hread, ih,
      map_map, hoffset]
    rfl

/-- A run of steps is what is read. -/
theorem Reads.pieces_eq (h : Reads start t found) : pieces start t = .ok found := by
  have happend := h.pieces_append [] nofun
  have hend : pieces (start + t.length) [] = .ok [] := by rw [pieces]
  rw [List.append_nil, hend] at happend
  rw [happend]
  exact congrArg Except.ok (List.append_nil found)

/-- A reading stops at the opening brace that follows a run of steps. -/
structure Stops (start : Nat) (t : Text) (rejection : Rejection) (front rest : Text) : Prop where
  /-- The text is what is read, the brace and what follows it. -/
  text_eq : t = front ++ CodePoint.ofChar '{' :: rest
  /-- What stands in front of the brace is read. -/
  exists_reads : ∃ found, Reads start front found
  /-- The brace is not doubled. -/
  head_ne : rest.head? ≠ some (CodePoint.ofChar '{')
  /-- The property is refused. -/
  refused : Refused (start + front.length) rest rejection

/-- A reading that stops gives the refusal. -/
theorem Stops.pieces_eq (h : Stops start t rejection front rest) :
    pieces start t = .error rejection := by
  obtain ⟨rfl, ⟨found, hreads⟩, hhead, hrefused⟩ := h
  have hopen : (CodePoint.ofChar '{' :: rest).head? ≠ some (CodePoint.ofChar '}') := by
    rw [List.head?_cons]
    decide
  rw [hreads.pieces_append _ hopen, hrefused.pieces_eq hhead]
  rfl

namespace Stops

/-- A doubled brace in front is one more step. -/
theorem doubled {c : CodePoint} (hc : c = '{' ∨ c = '}')
    (h : Stops (start + 2) t rejection front rest) :
    Stops start (c :: c :: t) rejection (c :: c :: front) rest := by
  obtain ⟨rfl, ⟨found, hreads⟩, hhead, hrefused⟩ := h
  refine ⟨rfl, ⟨_, .doubled hc hreads⟩, hhead, ?_⟩
  have hoffset : start + (c :: c :: front).length = start + 2 + front.length := by
    simp only [List.length_cons]
    omega
  rw [hoffset]
  exact hrefused

/-- A code point in front that stands for itself is one more step. -/
theorem single {c : CodePoint} (hc : c ≠ '{')
    (halone : ¬ (c = '}' ∧ t.head? = some (CodePoint.ofChar '}')))
    (h : Stops (start + 1) t rejection front rest) :
    Stops start (c :: t) rejection (c :: front) rest := by
  obtain ⟨rfl, ⟨found, hreads⟩, hhead, hrefused⟩ := h
  have hfront : ¬ (c = '}' ∧ front.head? = some (CodePoint.ofChar '}')) := by
    rintro ⟨hclose, hnext⟩
    obtain ⟨later, rfl⟩ := List.head?_eq_some_iff.mp hnext
    exact halone ⟨hclose, rfl⟩
  refine ⟨rfl, ⟨_, .single hc hfront hreads⟩, hhead, ?_⟩
  have hoffset : start + (c :: front).length = start + 1 + front.length := by
    simp only [List.length_cons]
    omega
  rw [hoffset]
  exact hrefused

/-- A property in front that can be read is one more step. -/
theorem hole {body : Text} {hole : Property} (hopen : body.head? ≠ some (CodePoint.ofChar '{'))
    (hbody : CodePoint.ofChar '}' ∉ body) (hread : readProperty start body = .ok hole)
    (h : Stops (start + (body.length + 2)) t rejection front rest) :
    Stops start ('{' :: (body ++ CodePoint.ofChar '}' :: t)) rejection
      ('{' :: (body ++ CodePoint.ofChar '}' :: front)) rest := by
  obtain ⟨rfl, ⟨found, hreads⟩, hhead, hrefused⟩ := h
  refine ⟨?_, ⟨_, .hole hopen hbody hread hreads⟩, hhead, ?_⟩
  · simp only [List.cons_append, List.append_assoc]
  · have hoffset : start + (CodePoint.ofChar '{' ::
        (body ++ CodePoint.ofChar '}' :: front)).length =
        start + (body.length + 2) + front.length := by
      simp only [List.length_cons, List.length_append]
      omega
    rw [hoffset]
    exact hrefused

end Stops

/-- Every reading is a run of steps or stops behind one. The cases are those of the reading:
the end, a doubled opening brace, a property without and with its closing brace, a doubled
closing brace, and any other code point. -/
theorem reads_or_stops (start : Nat) (t : Text) :
    (∃ found, Reads start t found) ∨
      ∃ rejection front rest, Stops start t rejection front rest := by
  fun_induction pieces start t with
  | case1 start => exact .inl ⟨[], .nil⟩
  | case2 start rest hhead ih =>
    obtain ⟨rest, rfl⟩ := List.head?_eq_some_iff.mp hhead
    rcases ih with ⟨found, hreads⟩ | ⟨rejection, front, later, hstops⟩
    · exact .inl ⟨_, .doubled (.inl rfl) hreads⟩
    · exact .inr ⟨_, _, _, hstops.doubled (.inl rfl)⟩
  | case3 start rest hhead hcut =>
    have hnone := Text.not_mem_of_cut?_eq_none hcut
    exact .inr ⟨_, [], rest, rfl, ⟨[], .nil⟩, hhead, .unclosed hnone⟩
  | case4 start rest hhead body tail hcut ih =>
    have hbody := Text.not_mem_of_cut? hcut
    obtain rfl := Text.eq_of_cut? hcut
    cases hread : readProperty start body with
    | error rejection => exact .inr ⟨_, [], _, rfl, ⟨[], .nil⟩, hhead, .body hbody hread⟩
    | ok hole =>
      have hopen : body.head? ≠ some (CodePoint.ofChar '{') := by
        intro hbrace
        obtain ⟨later, rfl⟩ := List.head?_eq_some_iff.mp hbrace
        exact hhead rfl
      have hnext := ih hole
      rw [(place_of_readProperty hread).2] at hnext
      rcases hnext with ⟨found, hreads⟩ | ⟨rejection, front, later, hstops⟩
      · exact .inl ⟨_, .hole hopen hbody hread hreads⟩
      · exact .inr ⟨_, _, _, hstops.hole hopen hbody hread⟩
  | case5 start c rest hc hpair ih =>
    obtain ⟨rfl, hclose⟩ := hpair
    obtain ⟨rest, rfl⟩ := List.head?_eq_some_iff.mp hclose
    rcases ih with ⟨found, hreads⟩ | ⟨rejection, front, later, hstops⟩
    · exact .inl ⟨_, .doubled (.inr rfl) hreads⟩
    · exact .inr ⟨_, _, _, hstops.doubled (.inr rfl)⟩
  | case6 start c rest hc halone ih =>
    rcases ih with ⟨found, hreads⟩ | ⟨rejection, front, later, hstops⟩
    · exact .inl ⟨_, .single hc halone hreads⟩
    · exact .inr ⟨_, _, _, hstops.single hc halone⟩

/-- A reading succeeds exactly as a run of steps. -/
theorem pieces_eq_ok_iff : pieces start t = .ok found ↔ Reads start t found := by
  constructor
  · intro h
    rcases reads_or_stops start t with ⟨other, hreads⟩ | ⟨rejection, front, rest, hstops⟩
    · rw [hreads.pieces_eq] at h
      cases h
      exact hreads
    · rw [hstops.pieces_eq] at h
      cases h
  · exact Reads.pieces_eq

/-- A reading fails exactly where it stops. -/
theorem pieces_eq_error_iff :
    pieces start t = .error rejection ↔ ∃ front rest, Stops start t rejection front rest := by
  constructor
  · intro h
    rcases reads_or_stops start t with ⟨found, hreads⟩ | ⟨other, front, rest, hstops⟩
    · rw [hreads.pieces_eq] at h
      cases h
    · rw [hstops.pieces_eq] at h
      cases h
      exact ⟨front, rest, hstops⟩
  · rintro ⟨front, rest, hstops⟩
    exact hstops.pieces_eq

/-- Parsing fails exactly as reading does. -/
theorem parse_eq_error_iff :
    parse t = .error rejection ↔ ∃ front rest, Stops 0 t rejection front rest := by
  rw [← pieces_eq_error_iff, parse]
  cases pieces 0 t with
  | ok found => exact ⟨nofun, nofun⟩
  | error other => exact ⟨fun h => by cases h; rfl, fun h => by cases h; rfl⟩

/-- What is read in front of a brace can be parsed by itself. -/
theorem Reads.exists_parse (h : Reads 0 t found) : ∃ segments, parse t = .ok segments :=
  ⟨gather found, by rw [parse, h.pieces_eq]; rfl⟩

end TemplateLint.Template
