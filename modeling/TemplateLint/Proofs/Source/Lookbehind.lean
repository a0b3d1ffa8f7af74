import TemplateLint.Source.Call
import TemplateLint.Proofs.Source.Range
import Mathlib.Data.List.DropRight

/-!
# What stands in front of a declared name

A name is being declared if a type stands in front of it, and the blanks between the two,
which are also what is left of comments, should not matter. The text in front is seen through a
window of fixed width, though, and blanks use up its room. Main statement: two gaps of blanks
give the same answer as long as the last token in front of them stays in sight, and the gaps
behind a text never matter exactly if it ends neither in a word nor in brackets.
-/

namespace TemplateLint.Source

variable {a b t w w₁ w₂ : Text}

/-- All code points are blanks. -/
def IsGapText (t : Text) : Prop :=
  ∀ c ∈ t, c.isBlank = true

/-- A text without blanks at its end ends in a type: in brackets, or in a word after which a
name is not called. -/
def endsInType (before : Text) : Bool :=
  Text.endsWith before "[]" || (lastWord? before).any fun word => decide (word ∉ callWords)

/-- The end of a text from its last token on: the word at the end with the code point in front
of it, or two code points, and the blanks behind them. -/
def lastToken (t : Text) : Text :=
  let before := Text.trimRight t
  t.drop (before.length - max 2 ((before.reverse.takeWhile CodePoint.isWord).length + 1))

/-- What is seen of a text, without the blanks at its end, behind a gap of one blank. -/
def inSight (t : Text) : Text :=
  (Text.trimRight t).drop (t.length + 1 - lookBehind)

/-- A gap at the end of a text is dropped. -/
theorem trimRight_append (t : Text) (h : IsGapText w) :
    Text.trimRight (t ++ w) = Text.trimRight t := by
  have hback : ∀ c ∈ w.reverse, c.isBlank = true := fun c hc => h c (List.mem_reverse.mp hc)
  rw [Text.trimRight, List.reverse_append, List.dropWhile_append_of_pos hback, Text.trimRight]

/-- It does not matter whether blanks are dropped at the end or code points at the front first. -/
theorem trimRight_drop (t : Text) (n : Nat) :
    Text.trimRight (t.drop n) = (Text.trimRight t).drop n := by
  change (t.drop n).rdropWhile _ = (t.rdropWhile _).drop n
  induction t using List.reverseRecOn with
  | nil => rw [List.drop_nil, List.rdropWhile_nil, List.drop_nil]
  | append_singleton t c ih =>
    by_cases hn : n ≤ t.length
    · rw [List.drop_append_of_le_length hn]
      by_cases hc : c.isBlank = true
      · rw [List.rdropWhile_concat_pos _ _ _ hc, List.rdropWhile_concat_pos _ _ _ hc, ih]
      · rw [List.rdropWhile_concat_neg _ _ _ hc, List.rdropWhile_concat_neg _ _ _ hc,
          List.drop_append_of_le_length hn]
    · have hall : (t ++ [c]).length ≤ n := by
        rw [List.length_append, List.length_singleton]
        omega
      have hpart := (List.rdropWhile_prefix CodePoint.isBlank (l := t ++ [c])).length_le
      rw [List.drop_of_length_le hall, List.rdropWhile_nil,
        List.drop_of_length_le (Nat.le_trans hpart hall)]

/-- Behind a gap the answer is read off the text in front of it, as far as it is seen. -/
theorem isDeclaration_behind (h : IsGapText w) :
    isDeclaration (a ++ w ++ b) (a ++ w).length =
      endsInType ((Text.trimRight a).drop (a.length + w.length - lookBehind)) := by
  have hslice : (a ++ w ++ b).slice ((a ++ w).length - lookBehind) (a ++ w).length =
      (a ++ w).drop ((a ++ w).length - lookBehind) := by
    rw [Text.slice, List.drop_append_of_le_length (Nat.sub_le _ _), List.take_left' (by simp)]
  have hseen : Text.trimRight ((a ++ w).drop ((a ++ w).length - lookBehind)) =
      (Text.trimRight a).drop (a.length + w.length - lookBehind) := by
    rw [trimRight_drop, trimRight_append a h, List.length_append]
  rw [isDeclaration, hslice, hseen, endsInType]
  cases lastWord? ((Text.trimRight a).drop (a.length + w.length - lookBehind)) <;> rfl

section Token

variable {front run : Text} {stop : CodePoint}

/-- The word characters at the end of a text reach back to the last code point that is none. -/
theorem takeWhile_reverse_append (front : Text) (hstop : stop.isWord = false)
    (hrun : ∀ c ∈ run, c.isWord = true) :
    ((front ++ stop :: run).reverse.takeWhile CodePoint.isWord).reverse = run := by
  have hback : ∀ c ∈ run.reverse, c.isWord = true := fun c hc => hrun c (List.mem_reverse.mp hc)
  rw [List.reverse_append, List.reverse_cons, List.append_assoc, List.singleton_append,
    List.takeWhile_append_of_pos hback, List.takeWhile_cons_of_neg (by rw [hstop]; decide),
    List.append_nil, List.reverse_reverse]

/-- The code point in front of the word characters at the end of a text. -/
theorem getLast?_take_append (front : Text) (stop : CodePoint) (run : Text) :
    ((front ++ stop :: run).take ((front ++ stop :: run).length - run.length)).getLast? =
      some stop := by
  have hlength : (front ++ stop :: run).length - run.length = (front ++ [stop]).length := by
    simp only [List.length_append, List.length_cons, List.length_nil]
    omega
  rw [hlength, List.append_cons front stop run, List.take_left, List.getLast?_concat]

/-- The last word of a text does not depend on what stands in front of a code point that is not
part of a word. -/
theorem lastWord?_append (front : Text) (hstop : stop.isWord = false)
    (hrun : ∀ c ∈ run, c.isWord = true) :
    lastWord? (front ++ stop :: run) = lastWord? (stop :: run) := by
  have hword := takeWhile_reverse_append front hstop hrun
  have hword' := takeWhile_reverse_append [] hstop hrun
  have hlast := getLast?_take_append front stop run
  have hlast' := getLast?_take_append [] stop run
  rw [List.nil_append] at hword' hlast'
  unfold lastWord?
  rw [hword, hword']
  dsimp only
  rw [hlast, hlast']

end Token

/-- Whether a text ends in brackets is seen in its last two code points. -/
theorem endsWith_drop {n : Nat} (h : n + 2 ≤ t.length) :
    Text.endsWith (t.drop n) "[]" = Text.endsWith t "[]" := by
  rw [Bool.eq_iff_iff, Text.endsWith, Text.endsWith, List.isSuffixOf_iff_suffix,
    List.isSuffixOf_iff_suffix]
  constructor
  · exact fun hend => hend.trans (List.drop_suffix n t)
  · intro hend
    refine List.suffix_of_suffix_length_le hend (List.drop_suffix n t) ?_
    rw [List.length_drop]
    change 2 ≤ _
    omega

/-- A text that does not consist of word characters has a last code point that is none. -/
theorem exists_stop (h : (t.reverse.takeWhile CodePoint.isWord).length < t.length) :
    ∃ front stop run, t = front ++ stop :: run ∧ stop.isWord = false ∧
      (∀ c ∈ run, c.isWord = true) ∧
      run.length = (t.reverse.takeWhile CodePoint.isWord).length := by
  have hsplit := List.takeWhile_append_dropWhile (p := CodePoint.isWord) (l := t.reverse)
  cases hrest : t.reverse.dropWhile CodePoint.isWord with
  | nil =>
    rw [hrest, List.append_nil] at hsplit
    rw [hsplit, List.length_reverse] at h
    exact absurd h (Nat.lt_irrefl _)
  | cons stop front =>
    have hstop := List.head?_dropWhile_not CodePoint.isWord t.reverse
    rw [hrest, List.head?_cons] at hstop
    rw [hrest] at hsplit
    refine ⟨front.reverse, stop, (t.reverse.takeWhile CodePoint.isWord).reverse, ?_, hstop, ?_, ?_⟩
    · have hwhole := congrArg List.reverse hsplit
      rw [List.reverse_append, List.reverse_cons, List.reverse_reverse, List.append_assoc] at hwhole
      exact hwhole.symm
    · exact fun c hc => List.mem_takeWhile_imp (List.mem_reverse.mp hc)
    · rw [List.length_reverse]

/-- A text is cut without changing the answer as long as its last token is not cut. -/
theorem endsInType_drop {n : Nat}
    (h : n ≤ t.length - max 2 ((t.reverse.takeWhile CodePoint.isWord).length + 1)) :
    endsInType (t.drop n) = endsInType t := by
  rcases Nat.eq_zero_or_pos n with rfl | hpos
  · rw [List.drop_zero]
  · obtain ⟨front, stop, run, ht, hstop, hrun, hlength⟩ := exists_stop (t := t) (by omega)
    have hword : lastWord? (t.drop n) = lastWord? t := by
      have hfront : n ≤ front.length := by
        have hcount := congrArg List.length ht
        rw [List.length_append, List.length_cons] at hcount
        omega
      rw [ht, List.drop_append_of_le_length hfront, lastWord?_append _ hstop hrun,
        lastWord?_append _ hstop hrun]
    rw [endsInType, endsInType, endsWith_drop (by omega), hword]

/-- A text has no last word exactly if none of the word characters at its end starts one. -/
theorem lastWord?_eq_none_iff :
    lastWord? t = none ↔
      ∀ c ∈ t.reverse.takeWhile CodePoint.isWord, c.isIdentifierStart = false := by
  unfold lastWord?
  dsimp only
  split
  · next hempty =>
    rw [List.isEmpty_iff, List.dropWhile_eq_nil_iff] at hempty
    simpa using hempty
  · next hword =>
    rw [List.isEmpty_iff, List.dropWhile_eq_nil_iff] at hword
    have hsome : ∀ {p : Prop} [Decidable p] {x y : Text},
        (if p then some x else some y) ≠ none := by
      intro p _ x y
      split <;> exact Option.some_ne_none _
    refine iff_of_false hsome fun hall => hword fun c hc => ?_
    rw [hall c (List.mem_reverse.mp hc)]
    rfl

/-- Where neither brackets nor a word is seen, a shorter part does not show one. -/
theorem endsInType_drop_eq_false (hbrackets : Text.endsWith t "[]" = false)
    (hword : lastWord? t = none) (n : Nat) : endsInType (t.drop n) = false := by
  have hlater : Text.endsWith (t.drop n) "[]" = false := by
    rw [Text.endsWith, ← Bool.not_eq_true, List.isSuffixOf_iff_suffix] at hbrackets ⊢
    exact fun hend => hbrackets (hend.trans (List.drop_suffix n t))
  have hnone : lastWord? (t.drop n) = none := by
    rw [lastWord?_eq_none_iff] at hword ⊢
    intro c hc
    rw [List.reverse_drop, ← List.take_takeWhile] at hc
    exact hword c (List.mem_of_mem_take hc)
  rw [endsInType, hlater, hnone]
  rfl

/-- No call word has only one code point that can start an identifier. -/
theorem exists_start_of_mem_callWords :
    ∀ word ∈ callWords, ∃ c ∈ word.tail, c.isIdentifierStart = true := by
  decide

/-- A word that is cut down to the last code point that can start one is no call word. -/
theorem endsInType_cons {c : CodePoint} {rest : Text} (hword : ∀ d ∈ c :: rest, d.isWord = true)
    (hstart : c.isIdentifierStart = true) (hrest : ∀ d ∈ rest, d.isIdentifierStart = false) :
    endsInType (c :: rest) = true := by
  have hrun : ((c :: rest).reverse.takeWhile CodePoint.isWord).reverse = c :: rest := by
    rw [List.takeWhile_eq_self_iff.mpr fun d hd => hword d (List.mem_reverse.mp hd),
      List.reverse_reverse]
  have hlast : lastWord? (c :: rest) = some (c :: rest) := by
    unfold lastWord?
    rw [hrun]
    simp [hstart]
  have hcall : c :: rest ∉ callWords := by
    intro hmem
    obtain ⟨d, hd, hagain⟩ := exists_start_of_mem_callWords _ hmem
    rw [hrest d hd] at hagain
    cases hagain
  rw [endsInType, hlast, Option.any_some, decide_eq_true hcall, Bool.or_true]

/-- A text that has a last word can be cut inside the word so that a type is seen. -/
theorem exists_drop_endsInType (h : lastWord? t ≠ none) : ∃ n, endsInType (t.drop n) = true := by
  induction t with
  | nil => exact absurd rfl h
  | cons c rest ih =>
    by_cases hrest : lastWord? rest = none
    · rw [lastWord?_eq_none_iff] at hrest
      rw [Ne, lastWord?_eq_none_iff, List.reverse_cons, List.takeWhile_append] at h
      split at h
      · next hall =>
        -- the word begins with the first code point and is all of the text
        rw [(List.takeWhile_prefix _).eq_of_length hall] at hrest
        have hwords : ∀ d ∈ rest.reverse, d.isWord = true := by
          rw [← List.takeWhile_eq_self_iff]
          exact (List.takeWhile_prefix _).eq_of_length hall
        by_cases hc : c.isWord = true ∧ c.isIdentifierStart = true
        · refine ⟨0, endsInType_cons (List.forall_mem_cons.mpr ⟨hc.1, ?_⟩) hc.2 ?_⟩
          · exact fun d hd => hwords d (List.mem_reverse.mpr hd)
          · exact fun d hd => hrest d (List.mem_reverse.mpr hd)
        · refine absurd (fun d hd => ?_) h
          rcases List.mem_append.mp hd with hd | hd
          · exact hrest d hd
          · have hword := List.mem_takeWhile_imp hd
            obtain rfl := List.mem_singleton.mp ((List.takeWhile_prefix _).subset hd)
            exact Bool.of_not_eq_true fun hstart => hc ⟨hword, hstart⟩
      · exact absurd hrest h
    · obtain ⟨n, hn⟩ := ih hrest
      exact ⟨n + 1, hn⟩

/-- Behind a gap a part of what is in sight behind one blank is seen. -/
theorem exists_drop_inSight (hne : w ≠ []) (h : IsGapText w) :
    ∃ n, isDeclaration (a ++ w ++ b) (a ++ w).length = endsInType ((inSight a).drop n) := by
  have hpos := List.length_pos_iff.mpr hne
  have hcut : a.length + w.length - lookBehind = a.length + 1 - lookBehind +
      (a.length + w.length - lookBehind - (a.length + 1 - lookBehind)) := by omega
  exact ⟨_, by rw [isDeclaration_behind h, hcut, inSight, List.drop_drop]⟩

/-- Every part of what is in sight behind one blank is what is seen behind some gap. -/
theorem exists_gap_inSight (a b : Text) (n : Nat) :
    ∃ w, w ≠ [] ∧ IsGapText w ∧
      isDeclaration (a ++ w ++ b) (a ++ w).length = endsInType ((inSight a).drop n) := by
  have hgap : ∀ count, IsGapText (List.replicate count (CodePoint.ofChar ' ')) := by
    intro count c hc
    rw [List.eq_of_mem_replicate hc]
    rfl
  have hcut : a.length + (n + max 1 (lookBehind - a.length)) - lookBehind =
      a.length + 1 - lookBehind + n := by omega
  refine ⟨List.replicate (n + max 1 (lookBehind - a.length)) (CodePoint.ofChar ' '), ?_, hgap _, ?_⟩
  · rw [Ne, List.replicate_eq_nil_iff]
    omega
  · rw [isDeclaration_behind (hgap _), List.length_replicate, hcut, inSight, List.drop_drop]

/-- Behind a gap that leaves the last token in sight the whole text in front decides. -/
theorem isDeclaration_of_inSight (h : IsGapText w)
    (hsight : w.length + (lastToken a).length ≤ lookBehind) :
    isDeclaration (a ++ w ++ b) (a ++ w).length = endsInType (Text.trimRight a) := by
  have hlength := length_trimRight_le a
  rw [lastToken, List.length_drop] at hsight
  rw [isDeclaration_behind h, endsInType_drop]
  omega

/-- When the gap between a name and the text in front of it matters. Two gaps that leave the last
token in sight give the same answer. All gaps do exactly if the text, as far as it is seen behind
one blank, ends neither in brackets nor in a word: any type and any call word in front of a name
goes out of sight behind some gap. -/
theorem gap_matters_iff (a : Text) :
    (∀ w₁ w₂ b, IsGapText w₁ → IsGapText w₂ →
      w₁.length + (lastToken a).length ≤ lookBehind →
      w₂.length + (lastToken a).length ≤ lookBehind →
        isDeclaration (a ++ w₁ ++ b) (a ++ w₁).length =
          isDeclaration (a ++ w₂ ++ b) (a ++ w₂).length) ∧
    ((∀ w₁ w₂ b, w₁ ≠ [] → w₂ ≠ [] → IsGapText w₁ → IsGapText w₂ →
        isDeclaration (a ++ w₁ ++ b) (a ++ w₁).length =
          isDeclaration (a ++ w₂ ++ b) (a ++ w₂).length) ↔
      Text.endsWith (inSight a) "[]" = false ∧ lastWord? (inSight a) = none) := by
  refine ⟨fun w₁ w₂ b h₁ h₂ hsight₁ hsight₂ => ?_, fun hall => ?_, ?_⟩
  · rw [isDeclaration_of_inSight h₁ hsight₁, isDeclaration_of_inSight h₂ hsight₂]
  · have hnone : ∀ n, endsInType ((inSight a).drop n) = false := by
      intro n
      obtain ⟨w₁, hne₁, h₁, hseen⟩ := exists_gap_inSight a [] n
      obtain ⟨w₂, hne₂, h₂, hunseen⟩ := exists_gap_inSight a [] (inSight a).length
      rw [← hseen, hall w₁ w₂ [] hne₁ hne₂ h₁ h₂, hunseen, List.drop_length]
      rfl
    have hwhole := hnone 0
    rw [List.drop_zero, endsInType, Bool.or_eq_false_iff] at hwhole
    refine ⟨hwhole.1, ?_⟩
    by_contra hword
    obtain ⟨n, hn⟩ := exists_drop_endsInType hword
    cases hn.symm.trans (hnone n)
  · rintro ⟨hbrackets, hword⟩ w₁ w₂ b hne₁ hne₂ h₁ h₂
    obtain ⟨n₁, hn₁⟩ := exists_drop_inSight (a := a) (b := b) hne₁ h₁
    obtain ⟨n₂, hn₂⟩ := exists_drop_inSight (a := a) (b := b) hne₂ h₂
    rw [hn₁, hn₂, endsInType_drop_eq_false hbrackets hword,
      endsInType_drop_eq_false hbrackets hword]

/-- A type in front of a name, over one blank and over a line end and more blanks. -/
theorem gap_matters_iff_lines :
    let a : Text := "static void"
    let b : Text := "Error(m);"
    isDeclaration (a ++ Text.ofString " " ++ b) (a ++ Text.ofString " ").length =
        isDeclaration (a ++ Text.ofString "\r\n\t\t" ++ b) (a ++ Text.ofString "\r\n\t\t").length ∧
      isDeclaration (a ++ Text.ofString " " ++ b) (a ++ Text.ofString " ").length = true := by
  intro a b
  have hblank : IsGapText (Text.ofString " ") := by
    rw [IsGapText]
    decide
  have hlines : IsGapText (Text.ofString "\r\n\t\t") := by
    rw [IsGapText]
    decide
  exact ⟨(gap_matters_iff a).1 _ _ b hblank hlines (by decide) (by decide), by decide⟩

/-- Two hundred blanks hide a type, and behind one blank less a call word is seen as another
word. -/
theorem long_gap_matters :
    let gap (count : Nat) : Text := List.replicate count (CodePoint.ofChar ' ')
    let answer (a : String) (count : Nat) :=
      isDeclaration (Text.ofString a ++ gap count ++ Text.ofString "Error(m);")
        (Text.ofString a ++ gap count).length
    answer "void" 1 = true ∧ answer "void" 200 = false ∧
      answer "return" 1 = false ∧ answer "return" 199 = true := by
  decide +kernel

end TemplateLint.Source
