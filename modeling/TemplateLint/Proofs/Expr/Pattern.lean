import Mathlib.Data.List.Basic
import TemplateLint.Expr.Token
import TemplateLint.Proofs.Source.Hidden

/-!
# Patterns of literals

The grammar of expressions gives literals as regular expressions, and these are matched greedily
and with backtracking. Main statements: the rest of a regular literal matches in one way at most,
and the first match of every literal ends where the tokens are cut; a character literal must not
be empty.
-/

namespace TemplateLint

/-- Regular expressions over code points. -/
inductive Regex
  /-- One code point of a class. -/
  | one (accepts : CodePoint → Bool)
  /-- One expression after the other. -/
  | seq (first second : Regex)
  /-- The first expression, or else the second. -/
  | alt (first second : Regex)
  /-- As many repetitions as possible. -/
  | star (body : Regex)

namespace Regex

/-- What is left after some repetitions of a step, most repetitions first. A repetition has to
take something, so there are at most as many as `fuel`, the length of the text. -/
def repeated (step : Text → List Text) : (fuel : Nat) → Text → List Text
  | 0, t => [t]
  | fuel + 1, t =>
    let shorter := (step t).filter fun rest => decide (rest.length < t.length)
    shorter.flatMap (repeated step fuel) ++ [t]

/-- What is left of a text behind each match at its front, in the order in which backtracking
finds the matches. -/
def rests : Regex → Text → List Text
  | one _, [] => []
  | one accepts, c :: t => if accepts c then [t] else []
  | seq first second, t => (rests first t).flatMap (rests second)
  | alt first second, t => rests first t ++ rests second t
  | star body, t => repeated (rests body) t.length t

/-- The end of the first match at an offset of a text. -/
def matchAt (pattern : Regex) (text : Text) (i : Nat) : Option Nat :=
  (pattern.rests (text.drop i)).head?.map fun rest => text.length - rest.length

/-- Where the first match leaves the text behind a length, it ends there. -/
theorem matchAt_of_head? {pattern : Regex} {text : Text} {i : Nat} {length? : Option Nat}
    (h : (pattern.rests (text.drop i)).head? = length?.map (text.drop i).drop)
    (hbounds : ∀ n, length? = some n → 0 < n ∧ n ≤ (text.drop i).length) :
    pattern.matchAt text i = length?.map (i + ·) := by
  rw [matchAt, h, Option.map_map]
  refine Option.map_congr fun n hn => ?_
  obtain ⟨hpos, hle⟩ := hbounds n hn
  rw [List.length_drop] at hle
  rw [Function.comp_apply, List.length_drop, List.length_drop]
  omega

/-- One code point. -/
def char (c : Char) : Regex :=
  one fun d => decide (d = c)

/-- One code point other than some. -/
def noneOf (cs : List Char) : Regex :=
  one fun d => cs.all fun c => decide (d ≠ c)

/-- A code point of a pattern is read off the front. -/
theorem rests_char_cons (x : Char) (c : CodePoint) (t : Text) :
    (char x).rests (c :: t) = if c = x then [t] else [] := by
  simp [char, rests]

/-- Behind its first code point a pattern matches as what is left of it does. -/
theorem matchAt_char_seq {x : Char} {text : Text} {i : Nat}
    (h : text[i]? = some (CodePoint.ofChar x)) (rest : Regex) :
    (seq (char x) rest).matchAt text i = rest.matchAt text (i + 1) := by
  rw [matchAt, matchAt, List.drop_eq_getElem?_toList_append, h, rests]
  simp [rests_char_cons]

/-- One repetition or more. -/
def plus (body : Regex) : Regex :=
  seq body (star body)

/-- Nothing is repeated in front of the end of the text. -/
theorem repeated_nil (step : Text → List Text) (fuel : Nat) : repeated step fuel [] = [[]] := by
  cases fuel with
  | zero => rfl
  | succ fuel =>
    have hnone : (step []).filter (fun rest => decide (rest.length < ([] : Text).length)) = [] := by
      rw [List.filter_eq_nil_iff]
      exact fun rest _ hlt => Nat.not_lt_zero _ (of_decide_eq_true hlt)
    rw [repeated, hnone, List.flatMap_nil, List.nil_append]

/-- Fuel beyond the length of the text changes nothing. -/
theorem repeated_eq (step : Text → List Text) {fuel more : Nat} {t : Text} (hfuel : t.length ≤ fuel)
    (hmore : t.length ≤ more) : repeated step fuel t = repeated step more t := by
  induction fuel generalizing t more with
  | zero =>
    obtain rfl := List.length_eq_zero_iff.mp (Nat.le_zero.mp hfuel)
    rw [repeated_nil, repeated_nil]
  | succ fuel ih =>
    cases more with
    | zero =>
      obtain rfl := List.length_eq_zero_iff.mp (Nat.le_zero.mp hmore)
      rw [repeated_nil, repeated_nil]
    | succ more =>
      rw [repeated, repeated]
      congr 1
      refine List.flatMap_congr fun rest hrest => ?_
      have hlt := of_decide_eq_true (List.mem_filter.mp hrest).2
      exact ih (by omega) (by omega)

section Star

variable {body last : Regex} {t u : Text}

/-- Where the body does not match, there is no repetition. -/
theorem rests_star_of_nil (h : body.rests t = []) : (star body).rests t = [t] := by
  rw [rests]
  cases t with
  | nil => exact repeated_nil _ _
  | cons c t =>
    rw [List.length_cons, repeated, h, List.filter_nil, List.flatMap_nil, List.nil_append]

/-- Where the body matches in one way, the repetitions from there come first. -/
theorem rests_star_of_singleton (h : body.rests t = [u]) (hlt : u.length < t.length) :
    (star body).rests t = (star body).rests u ++ [t] := by
  obtain ⟨fuel, hfuel⟩ : ∃ fuel, t.length = fuel + 1 := Nat.exists_eq_succ_of_ne_zero (by omega)
  have hkept : [u].filter (fun rest => decide (rest.length < t.length)) = [u] :=
    List.filter_eq_self.mpr (by simpa using hlt)
  rw [rests, rests, hfuel, repeated, h, hkept, List.flatMap_singleton,
    repeated_eq body.rests (show u.length ≤ fuel by omega) (Nat.le_refl _)]

/-- What follows the repetitions has to match where the body does not. -/
theorem rests_star_seq_of_nil (h : body.rests t = []) :
    (seq (star body) last).rests t = last.rests t := by
  rw [rests, rests_star_of_nil h, List.flatMap_singleton]

/-- What follows the repetitions is tried behind one more of them first. -/
theorem rests_star_seq_of_singleton (h : body.rests t = [u]) (hlt : u.length < t.length) :
    (seq (star body) last).rests t = (seq (star body) last).rests u ++ last.rests t := by
  rw [rests, rests_star_of_singleton h hlt, List.flatMap_append, List.flatMap_singleton, rests]

/-- One repetition has to match before the others are tried. -/
theorem rests_plus_seq (body last : Regex) (t : Text) :
    (seq (plus body) last).rests t = (body.rests t).flatMap (seq (star body) last).rests := by
  rw [rests, plus, rests, List.flatMap_assoc]
  rfl

end Star

end Regex

namespace Expr

open Source Regex

/-- What a pattern of a regular literal takes is a content on one line. -/
theorem regularContent_of_regularEnd? {quote : CodePoint} {t : Text} {n : Nat}
    (h : regularEnd? quote t = some n) :
    ∃ content next, RegularContent quote content ∧ t = content ++ quote :: next ∧
      n = content.length + 1 := by
  fun_induction regularEnd? quote t generalizing n with
  | case1 => cases h
  | case2 rest =>
    cases h
    exact ⟨[], rest, .nil, rfl, rfl⟩
  | case3 => cases h
  | case4 => cases h
  | case5 => cases h
  | case6 d rest hline _ _ ih =>
    obtain ⟨m, hm, rfl⟩ := Option.map_eq_some_iff.mp h
    obtain ⟨content, next, hcontent, rfl, rfl⟩ := ih hm
    exact ⟨_, next, .escape hline hcontent, rfl, rfl⟩
  | case7 c rest hne hline hescape ih =>
    obtain ⟨m, hm, rfl⟩ := Option.map_eq_some_iff.mp h
    obtain ⟨content, next, hcontent, rfl, rfl⟩ := ih hm
    exact ⟨_, next, .plain hescape hne hline hcontent, rfl, rfl⟩

/-- The end of a regular literal lies inside the text, behind the opening quote. -/
theorem regularEnd?_bounds {quote : CodePoint} {t : Text} {n : Nat}
    (h : regularEnd? quote t = some n) : 0 < n ∧ n ≤ t.length := by
  obtain ⟨content, next, _, rfl, rfl⟩ := regularContent_of_regularEnd? h
  simp

/-- What a regular literal may repeat between its quotes: a code point other than the quote, the
backslash and the line end, or a backslash and a code point of the same line. -/
def regularUnit (quote : Char) : Regex :=
  alt (noneOf [quote, '\\', '\n']) (seq (char '\\') (noneOf ['\n']))

/-- What a verbatim literal may repeat between its quotes. -/
def verbatimUnit : Regex :=
  alt (noneOf ['"']) (seq (char '"') (char '"'))

/-- String literals on one line. -/
def stringPattern : Regex :=
  seq (char '"') (seq (star (regularUnit '"')) (char '"'))

/-- Character literals, which are not empty. -/
def charPattern : Regex :=
  seq (char '\'') (seq (plus (regularUnit '\'')) (char '\''))

/-- Verbatim string literals. -/
def verbatimPattern : Regex :=
  seq (char '@') (seq (char '"') (seq (star verbatimUnit) (char '"')))

section Patterns

variable {quote : Char} {c d : CodePoint} {t text : Text} {i : Nat}

/-- A code point that stands for itself is one repetition. -/
theorem rests_regularUnit_plain (hquote : c ≠ quote) (hline : c ≠ '\n') (hescape : c ≠ '\\') :
    (regularUnit quote).rests (c :: t) = [t] := by
  simp [regularUnit, rests, noneOf, rests_char_cons, hquote, hescape, hline]

/-- An escape is one repetition, if it does not cross the end of the line. -/
theorem rests_regularUnit_escape :
    (regularUnit quote).rests ('\\' :: d :: t) = if d = '\n' then [] else [t] := by
  simp [regularUnit, rests, noneOf, rests_char_cons]

/-- A backslash at the end of the text is no repetition. -/
theorem rests_regularUnit_last : (regularUnit quote).rests ['\\'] = [] := by
  simp [regularUnit, rests, noneOf, rests_char_cons]

/-- A quote is no repetition. -/
theorem rests_regularUnit_quote (h : CodePoint.ofChar quote ≠ '\\') :
    (regularUnit quote).rests (quote :: t) = [] := by
  simp [regularUnit, rests, noneOf, rests_char_cons, h]

/-- A line end is no repetition. -/
theorem rests_regularUnit_line : (regularUnit quote).rests ('\n' :: t) = [] := by
  have hne : CodePoint.ofChar '\n' ≠ '\\' := by decide
  simp [regularUnit, rests, noneOf, rests_char_cons, hne]

/-- The rest of a regular literal matches in at most one way, up to its closing quote. -/
theorem rests_regular (hquote : CodePoint.ofChar quote ≠ '\\') (t : Text) :
    (seq (star (regularUnit quote)) (Regex.char quote)).rests t =
      ((regularEnd? quote t).map t.drop).toList := by
  fun_induction regularEnd? quote t with
  | case1 => rfl
  | case2 t =>
    rw [rests_star_seq_of_nil (rests_regularUnit_quote hquote), rests_char_cons, if_pos rfl]
    rfl
  | case3 t hne =>
    rw [rests_star_seq_of_nil rests_regularUnit_line, rests_char_cons, if_neg hne]
    rfl
  | case4 hne =>
    rw [rests_star_seq_of_nil rests_regularUnit_last, rests_char_cons, if_neg hne]
    rfl
  | case5 t hne =>
    have hunit : (regularUnit quote).rests ('\\' :: '\n' :: t) = [] := by
      rw [rests_regularUnit_escape, if_pos rfl]
    rw [rests_star_seq_of_nil hunit, rests_char_cons, if_neg hne]
    rfl
  | case6 d t hline hne _ ih =>
    have hunit : (regularUnit quote).rests ('\\' :: d :: t) = [t] := by
      rw [rests_regularUnit_escape, if_neg hline]
    have hlt : t.length < (CodePoint.ofChar '\\' :: d :: t).length := by
      simp only [List.length_cons]
      omega
    rw [rests_star_seq_of_singleton hunit hlt, ih, rests_char_cons, if_neg hne, List.append_nil,
      Option.map_map]
    rfl
  | case7 c t hne hline hescape ih =>
    rw [rests_star_seq_of_singleton (rests_regularUnit_plain hne hline hescape) (by simp), ih,
      rests_char_cons, if_neg hne, List.append_nil, Option.map_map]
    rfl

/-- The rest of a character literal does the same, unless the literal is empty. -/
theorem rests_regular_plus (hquote : CodePoint.ofChar quote ≠ '\\') (t : Text) :
    (seq (plus (regularUnit quote)) (Regex.char quote)).rests t =
      (((regularEnd? quote t).filter fun n => decide (n ≠ 1)).map t.drop).toList := by
  rw [rests_plus_seq]
  fun_cases regularEnd? quote t with
  | case1 => rfl
  | case2 t =>
    rw [rests_regularUnit_quote hquote]
    rfl
  | case3 t hne =>
    rw [rests_regularUnit_line]
    rfl
  | case4 hne =>
    rw [rests_regularUnit_last]
    rfl
  | case5 t hne =>
    rw [rests_regularUnit_escape, if_pos rfl]
    rfl
  | case6 d t hline hne =>
    rw [rests_regularUnit_escape, if_neg hline, List.flatMap_singleton, rests_regular hquote]
    cases regularEnd? quote t with
    | none => rfl
    | some n => simp [Option.filter]
  | case7 c t hne hline hescape =>
    rw [rests_regularUnit_plain hne hline hescape, List.flatMap_singleton, rests_regular hquote]
    cases hend : regularEnd? quote t with
    | none => rfl
    | some n =>
      obtain ⟨content, _, _, _, rfl⟩ := regularContent_of_regularEnd? hend
      simp [Option.filter]

/-- The rest of a verbatim literal is first matched up to the quote where it ends. -/
theorem head?_rests_verbatim (t : Text) :
    ((seq (star verbatimUnit) (Regex.char '"')).rests t).head? = (verbatimEnd? t).map t.drop := by
  have hquote : ∀ t : Text, t.head? ≠ some (CodePoint.ofChar '"') →
      verbatimUnit.rests ('"' :: t) = [] := by
    intro t ht
    cases t with
    | nil => rfl
    | cons d t =>
      have hd : d ≠ '"' := fun hd => ht (congrArg some hd)
      simp [verbatimUnit, rests, noneOf, rests_char_cons, hd]
  have hdoubled : ∀ t : Text, verbatimUnit.rests ('"' :: '"' :: t) = [t] := by
    intro t
    simp [verbatimUnit, rests, noneOf, rests_char_cons]
  have hplain : ∀ (c : CodePoint) (t : Text), c ≠ '"' → verbatimUnit.rests (c :: t) = [t] := by
    intro c t hc
    simp [verbatimUnit, rests, noneOf, rests_char_cons, hc]
  fun_induction verbatimEnd? t with
  | case1 => rfl
  | case2 => rfl
  | case3 c hc =>
    rw [rests_star_seq_of_singleton (hplain c [] hc) (by simp), rests_char_cons, if_neg hc]
    rfl
  | case4 t ih =>
    have hlt : t.length < (CodePoint.ofChar '"' :: CodePoint.ofChar '"' :: t).length := by
      simp only [List.length_cons]
      omega
    rw [rests_star_seq_of_singleton (hdoubled t) hlt, List.head?_append, ih, rests_char_cons,
      if_pos rfl]
    cases verbatimEnd? t <;> rfl
  | case5 d t hd =>
    have hd' : (d :: t).head? ≠ some (CodePoint.ofChar '"') := fun h => hd (Option.some.inj h)
    rw [rests_star_seq_of_nil (hquote (d :: t) hd'), rests_char_cons, if_pos rfl]
    rfl
  | case6 c d t hc ih =>
    rw [rests_star_seq_of_singleton (hplain c (d :: t) hc) (by simp), rests_char_cons, if_neg hc,
      List.append_nil, ih, Option.map_map]
    rfl

/-- String literals match up to their ends. -/
theorem matchAt_stringPattern (hi : text[i]? = some (CodePoint.ofChar '"')) :
    stringPattern.matchAt text i = (regularEnd? '"' (text.drop (i + 1))).map (i + 1 + ·) := by
  rw [stringPattern, matchAt_char_seq hi]
  refine matchAt_of_head? ?_ fun n hn => regularEnd?_bounds hn
  rw [rests_regular (by decide), Option.head?_toList]

/-- Character literals match up to their ends, unless they are empty. -/
theorem matchAt_charPattern (hi : text[i]? = some (CodePoint.ofChar '\'')) :
    charPattern.matchAt text i =
      ((regularEnd? '\'' (text.drop (i + 1))).filter fun n => decide (n ≠ 1)).map (i + 1 + ·) := by
  rw [charPattern, matchAt_char_seq hi]
  refine matchAt_of_head? ?_ fun n hn => regularEnd?_bounds (Option.filter_eq_some_iff.mp hn).1
  rw [rests_regular_plus (by decide), Option.head?_toList]

end Patterns

end Expr

end TemplateLint
