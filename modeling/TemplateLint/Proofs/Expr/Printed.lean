import Mathlib.Data.List.Chain
import TemplateLint.Expr.Token
import TemplateLint.Proofs.Source.Hidden

/-!
# Printed tokens

Tokens are printed one after the other, with any blanks and complete comments around them. What
stands between two tokens leaves no trace: comments may hold quotes, and literals may hold
marks and the openers of comments. Main statement: the tokens that are cut from a printed text
are the ones that were printed, as long as one of two neighbours is a mark.
-/

namespace TemplateLint.Expr

open Source

/-- Words that are no names unless a sign stands in front of them. -/
def reservedWords : List Text :=
  ["true", "false", "null", "new"].map Text.ofString

/-- A letter or an underscore, and then letters, digits and underscores. -/
structure IsWord (word : Text) : Prop where
  /-- The first code point starts an identifier. -/
  start : ∃ c rest, word = c :: rest ∧ c.isIdentifierStart = true
  /-- Every code point belongs to a word. -/
  isAsciiWord : ∀ c ∈ word, c.isAsciiWord = true

/-- How a token is written. -/
inductive Spells : Token → Text → Prop
  /-- A regular literal as it stands. -/
  | string {source : Text} (h : IsToken (.regular '"') source) : Spells (.string source) source
  /-- A verbatim literal as it stands. -/
  | verbatim {source : Text} (h : IsToken .verbatim source) : Spells (.verbatim source) source
  /-- A name that is not reserved. -/
  | name {word : Text} (h : IsWord word) (hfree : word ∉ reservedWords) :
    Spells (.name word) word
  /-- Any name behind a sign. -/
  | escaped {word : Text} (h : IsWord word) : Spells (.name word) ('@' :: word)
  /-- A mark. -/
  | mark {c : CodePoint} (h : c ∈ marks) : Spells (.mark c) [c]

/-- What may stand between two tokens. -/
inductive IsGap : Text → Prop
  /-- Nothing. -/
  | nil : IsGap []
  /-- A blank comes first. -/
  | blank {c : CodePoint} {rest : Text} (hc : c.isBlank = true) (hrest : IsGap rest) :
    IsGap (c :: rest)
  /-- A comment up to the end of its line comes first. -/
  | lineComment {comment rest : Text} (hcomment : IsToken .lineComment comment)
      (hrest : IsGap rest) : IsGap (comment ++ CodePoint.ofChar '\n' :: rest)
  /-- A comment between its marks comes first. -/
  | blockComment {comment rest : Text} (hcomment : IsToken .blockComment comment)
      (hrest : IsGap rest) : IsGap (comment ++ rest)

/-- What may stand behind the last token: the last line may end with a comment. -/
inductive IsLastGap : Text → Prop
  /-- The text ends as it may go on between two tokens. -/
  | gap {gap : Text} (h : IsGap gap) : IsLastGap gap
  /-- The text ends with a comment on its last line. -/
  | lineComment {gap comment : Text} (hgap : IsGap gap)
      (hcomment : IsToken .lineComment comment) : IsLastGap (gap ++ comment)

/-- A text that prints tokens one after the other. -/
inductive Printed : List Token → Text → Prop
  /-- No token is left. -/
  | nil {gap : Text} (hgap : IsLastGap gap) : Printed [] gap
  /-- A token comes first. -/
  | cons {gap source rest : Text} {token : Token} {tokens : List Token} (hgap : IsGap gap)
      (hsource : Spells token source) (hrest : Printed tokens rest) :
    Printed (token :: tokens) (gap ++ (source ++ rest))

/-- Whether a token is a mark. -/
def Token.isMark : Token → Bool
  | .mark _ => true
  | _ => false

/-- One of two neighbours is a mark. -/
def Separated (tokens : List Token) : Prop :=
  tokens.IsChain fun first second => first.isMark = true ∨ second.isMark = true

/-- A code point that ends the token in front of it. -/
def IsStop (c : CodePoint) : Prop :=
  c.isBlank = true ∨ c = '/' ∨ c ∈ marks

/-- The end of a regular literal is its closing quote. -/
theorem regularEnd?_content {quote : CodePoint} {content : Text}
    (h : RegularContent quote content) (hescape : quote ≠ '\\') (next : Text) :
    regularEnd? quote (content ++ quote :: next) = some (content.length + 1) := by
  induction h with
  | nil =>
    rw [List.nil_append, regularEnd?.eq_def]
    exact if_pos rfl
  | @plain c rest hplain hquote hline _ ih =>
    rw [List.cons_append, regularEnd?.eq_def]
    dsimp only
    rw [if_neg hquote, if_neg hline, if_neg hplain, ih]
    rfl
  | @escape c rest hline _ ih =>
    rw [List.cons_append, List.cons_append, regularEnd?.eq_def]
    dsimp only
    rw [if_neg (Ne.symm hescape), if_neg (by decide), if_pos rfl, if_neg hline, ih]
    rfl

/-- The end of a verbatim literal is the first quote that is not doubled. -/
theorem verbatimEnd?_content {content next : Text} (h : VerbatimContent content)
    (hnext : next.head? ≠ some (CodePoint.ofChar '"')) :
    verbatimEnd? (content ++ CodePoint.ofChar '"' :: next) = some (content.length + 1) := by
  induction h with
  | nil =>
    cases next with
    | nil => rfl
    | cons d next =>
      have hsingle : d ≠ '"' := fun hd => hnext (congrArg some hd)
      rw [List.nil_append, verbatimEnd?, if_pos rfl, if_neg hsingle]
      rfl
  | @plain c rest hquote _ ih =>
    obtain ⟨d, more, hmore⟩ : ∃ d more, rest ++ CodePoint.ofChar '"' :: next = d :: more :=
      List.exists_cons_of_ne_nil (by simp)
    rw [hmore] at ih
    rw [List.cons_append, hmore, verbatimEnd?, if_neg hquote, ih]
    rfl
  | @doubled rest _ ih =>
    rw [List.cons_append, List.cons_append, verbatimEnd?, if_pos rfl, if_pos rfl, ih]
    rfl

/-- The numbers of the code points of words. -/
theorem val_of_isAsciiWord {c : CodePoint} (h : c.isAsciiWord = true) :
    0x30 ≤ c.val ∧ c.val ≤ 0x39 ∨ 0x41 ≤ c.val ∧ c.val ≤ 0x5A ∨ c.val = 0x5F ∨
      0x61 ≤ c.val ∧ c.val ≤ 0x7A := by
  simp only [CodePoint.isAsciiWord, CodePoint.isAsciiLetter, CodePoint.isAsciiLower,
    CodePoint.isAsciiUpper, CodePoint.isAsciiDigit, Bool.or_eq_true, Bool.and_eq_true,
    decide_eq_true_eq] at h
  rcases h with (⟨hlow, hhigh⟩ | ⟨hlow, hhigh⟩) | ⟨hlow, hhigh⟩ | rfl
  · omega
  · omega
  · omega
  · exact .inr (.inr (.inl rfl))

/-- No blank belongs to a word. -/
theorem isBlank_of_isAsciiWord {c : CodePoint} (h : c.isAsciiWord = true) : c.isBlank = false := by
  have hval := val_of_isAsciiWord h
  simp only [CodePoint.isBlank, Bool.or_eq_false_iff, Bool.and_eq_false_iff,
    decide_eq_false_iff_not]
  omega

/-- What starts an identifier belongs to a word and is no digit. -/
theorem isDecimalDigit_of_isIdentifierStart {c : CodePoint} (h : c.isIdentifierStart = true) :
    c.isAsciiWord = true ∧ c.isDecimalDigit = false := by
  have hword : c.isAsciiWord = true := by
    simp only [CodePoint.isIdentifierStart, Bool.or_eq_true] at h
    rcases h with hletter | hline
    · simp [CodePoint.isAsciiWord, hletter]
    · simp [CodePoint.isAsciiWord, hline]
  have hsmall := val_of_isAsciiWord hword
  refine ⟨hword, ?_⟩
  rw [CodePoint.isDecimalDigit, if_pos (by omega)]
  simp only [CodePoint.isIdentifierStart, CodePoint.isAsciiLetter, CodePoint.isAsciiLower,
    CodePoint.isAsciiUpper, Bool.or_eq_true, Bool.and_eq_true, decide_eq_true_eq] at h
  simp only [CodePoint.isAsciiDigit, Bool.and_eq_false_iff, decide_eq_false_iff_not]
  rcases h with (⟨hlow, hhigh⟩ | ⟨hlow, hhigh⟩) | rfl
  · omega
  · omega
  · decide

/-- No stop belongs to a word. -/
theorem IsStop.isAsciiWord_eq_false {c : CodePoint} (h : IsStop c) : c.isAsciiWord = false := by
  rcases h with hblank | rfl | hmark
  · refine Bool.eq_false_iff.mpr fun hword => ?_
    rw [isBlank_of_isAsciiWord hword] at hblank
    cases hblank
  · decide
  · revert c
    decide

/-- A stop is no quote. -/
theorem IsStop.ne_quote {c : CodePoint} (h : IsStop c) : c ≠ '"' := by
  rintro rfl
  rcases h with hblank | hslash | hmark
  · cases hblank
  · cases hslash
  · revert hmark
    decide

/-- The run of word characters at the front of a text is the word before a stop. -/
theorem wordRun_append {word rest : Text} (hword : ∀ c ∈ word, c.isAsciiWord = true)
    (hrest : ∀ c, rest.head? = some c → IsStop c) : wordRun (word ++ rest) = word := by
  rw [wordRun, List.takeWhile_append_of_pos hword]
  cases rest with
  | nil => simp
  | cons c rest => simp [(hrest c rfl).isAsciiWord_eq_false]

/-- What starts an identifier starts no other token. -/
theorem lexemeAt?_of_isIdentifierStart {c : CodePoint} (h : c.isIdentifierStart = true)
    (rest : Text) : lexemeAt? c rest =
      some (some (wordToken (wordRun (c :: rest))), (wordRun (c :: rest)).length) := by
  have hne : ∀ d : CodePoint, d.isIdentifierStart = false → c ≠ d := by
    rintro d hd rfl
    rw [h] at hd
    cases hd
  obtain ⟨hword, hdigit⟩ := isDecimalDigit_of_isIdentifierStart h
  have hblank := isBlank_of_isAsciiWord hword
  have hat := hne '@' (by decide)
  have hdollar := hne '$' (by decide)
  unfold lexemeAt?
  dsimp only
  rw [hblank, hdigit, if_neg (by decide), if_neg (hne '/' (by decide)),
    if_neg (hne '"' (by decide)), if_neg (hne '\'' (by decide))]
  simp [Text.startsWith, Text.ofString, hat, h, Ne.symm hat, Ne.symm hdollar]

/-- A sign in front of an identifier belongs to a name, reserved or not. -/
theorem lexemeAt?_escape {c : CodePoint} (h : c.isIdentifierStart = true) (rest : Text) :
    lexemeAt? '@' (c :: rest) =
      some (some (.name (wordRun (c :: rest))), 1 + (wordRun (c :: rest)).length) := by
  have hquote : CodePoint.ofChar '"' ≠ c := by
    rintro rfl
    cases h
  have hdollar : CodePoint.ofChar '$' ≠ c := by
    rintro rfl
    cases h
  have hsigns : CodePoint.ofChar '$' ≠ CodePoint.ofChar '@' := by decide
  have hdigit : (CodePoint.ofChar '@').isDecimalDigit = false := by decide
  unfold lexemeAt?
  dsimp only
  rw [if_neg (by decide), if_neg (by decide), if_neg (by decide), if_neg (by decide)]
  simp [Text.startsWith, Text.ofString, hquote, hdollar, hsigns, hdigit, h]

/-- A word that is not reserved is a name. -/
theorem wordToken_of_not_mem {word : Text} (h : word ∉ reservedWords) :
    wordToken word = .name word := by
  simp only [reservedWords, List.map_cons, List.map_nil, List.mem_cons, List.not_mem_nil,
    or_false, not_or] at h
  obtain ⟨htrue, hfalse, hnull, hnew⟩ := h
  rw [wordToken, if_neg htrue, if_neg hfalse, if_neg hnull, if_neg hnew]

/-- A token is cut off where a stop follows it. -/
theorem lexemeAt?_of_spells {token : Token} {source rest : Text} (h : Spells token source)
    (hstop : token.isMark = false → ∀ c, rest.head? = some c → IsStop c) :
    ∃ c front, source = c :: front ∧
      lexemeAt? c (front ++ rest) = some (some token, front.length + 1) := by
  cases h with
  | string h =>
    cases h with
    | @regular _ content _ hcontent =>
      refine ⟨'"', content ++ [CodePoint.ofChar '"'], rfl, ?_⟩
      have hend := regularEnd?_content hcontent (by decide) rest
      have hlex : ∀ t : Text, lexemeAt? '"' t = (regularEnd? '"' t).map fun length =>
        (some (.string ((CodePoint.ofChar '"' :: t).take (length + 1))), length + 1) := fun _ => rfl
      rw [hlex, List.append_assoc, List.singleton_append, hend]
      simp [List.take_append, List.take_of_length_le]
  | verbatim h =>
    cases h with
    | @verbatim content hcontent =>
      refine ⟨'@', CodePoint.ofChar '"' :: (content ++ [CodePoint.ofChar '"']), rfl, ?_⟩
      have hquote : rest.head? ≠ some (CodePoint.ofChar '"') := by
        intro hhead
        exact (hstop rfl _ hhead).ne_quote rfl
      have hend := verbatimEnd?_content hcontent hquote
      have hlex : ∀ t : Text, lexemeAt? '@' (CodePoint.ofChar '"' :: t) =
          (verbatimEnd? t).map fun length =>
            (some (.verbatim ((CodePoint.ofChar '@' :: CodePoint.ofChar '"' :: t).take
              (length + 2))), length + 2) := fun _ => rfl
      rw [List.cons_append, hlex, List.append_assoc, List.singleton_append, hend]
      simp [List.take_append, List.take_of_length_le]
  | name h hfree =>
    obtain ⟨c, front, rfl, hc⟩ := h.start
    refine ⟨c, front, rfl, ?_⟩
    have hrun := wordRun_append h.isAsciiWord (hstop rfl)
    rw [List.cons_append] at hrun
    rw [lexemeAt?_of_isIdentifierStart hc, hrun, wordToken_of_not_mem hfree]
    rfl
  | @escaped word h =>
    refine ⟨'@', word, rfl, ?_⟩
    have hrun := wordRun_append h.isAsciiWord (hstop rfl)
    obtain ⟨c, front, rfl, hc⟩ := h.start
    rw [List.cons_append] at hrun ⊢
    rw [lexemeAt?_escape hc, hrun, Nat.add_comm]
  | @mark c h =>
    refine ⟨c, [], rfl, ?_⟩
    simp only [marks, List.map_cons, List.map_nil, List.mem_cons, List.not_mem_nil, or_false] at h
    rcases h with rfl | rfl | rfl | rfl | rfl | rfl | rfl | rfl <;> rfl

/-- A code point of a token that is already read is passed over. -/
theorem lexemesFrom?_succ (offset skip : Nat) (c : CodePoint) (rest : Text) :
    lexemesFrom? offset (skip + 1) (c :: rest) = lexemesFrom? (offset + 1) skip rest := by
  generalize hskip : skip + 1 = more, ht : c :: rest = t
  fun_cases lexemesFrom? offset more t with
  | case1 => cases ht
  | case2 d later skip =>
    cases ht
    cases hskip
    rfl
  | case3 => cases hskip
  | case4 => cases hskip

/-- The token at the front is followed by the tokens of the rest. -/
theorem lexemesFrom?_zero {c : CodePoint} {rest : Text} {token : Option Token} {length : Nat}
    (h : lexemeAt? c rest = some (token, length)) (offset : Nat) :
    lexemesFrom? offset 0 (c :: rest) =
      (lexemesFrom? (offset + 1) (length - 1) rest).map fun later =>
        (token.map fun token => ⟨token, offset⟩).toList ++ later := by
  generalize hskip : 0 = more, ht : c :: rest = t
  fun_cases lexemesFrom? offset more t with
  | case1 => cases ht
  | case2 => cases hskip
  | case3 d later hnone =>
    cases ht
    cases h.symm.trans hnone
  | case4 d later found width hfound =>
    cases ht
    cases h.symm.trans hfound
    rfl

/-- The code points of a token that is already read are passed over. -/
theorem lexemesFrom?_skip (offset : Nat) (front rest : Text) :
    lexemesFrom? offset front.length (front ++ rest) =
      lexemesFrom? (offset + front.length) 0 rest := by
  induction front generalizing offset with
  | nil => rfl
  | cons c front ih =>
    have hoffset : offset + 1 + front.length = offset + (c :: front).length := by
      rw [List.length_cons]
      omega
    rw [← hoffset, ← ih, List.cons_append, List.length_cons, lexemesFrom?_succ]

/-- A token, or what leaves none, is followed by the tokens of the rest. -/
theorem lexemesFrom?_of_lexemeAt? {c : CodePoint} {front rest : Text} {token : Option Token}
    (h : lexemeAt? c (front ++ rest) = some (token, front.length + 1)) (offset : Nat) :
    lexemesFrom? offset 0 (c :: front ++ rest) =
      (lexemesFrom? (offset + (c :: front).length) 0 rest).map fun later =>
        (token.map fun token => ⟨token, offset⟩).toList ++ later := by
  have hoffset : offset + 1 + front.length = offset + (c :: front).length := by
    rw [List.length_cons]
    omega
  rw [← hoffset, ← lexemesFrom?_skip, List.cons_append, lexemesFrom?_zero h, Nat.add_sub_cancel]

/-- A blank or a comment leaves no token. -/
theorem lexemesFrom?_of_none {c : CodePoint} {front rest : Text}
    (h : lexemeAt? c (front ++ rest) = some (none, front.length + 1)) (offset : Nat) :
    lexemesFrom? offset 0 (c :: front ++ rest) =
      lexemesFrom? (offset + (c :: front).length) 0 rest := by
  rw [lexemesFrom?_of_lexemeAt? h]
  simp

/-- A comment up to the end of its line leaves no token. -/
theorem lexemesFrom?_lineComment {comment rest : Text} (h : IsToken .lineComment comment)
    (hrest : TokenKind.lineComment.MayPrecede rest) (offset : Nat) :
    lexemesFrom? offset 0 (comment ++ rest) =
      lexemesFrom? (offset + comment.length) 0 rest := by
  cases h with
  | @lineComment content hcontent =>
    refine lexemesFrom?_of_none ?_ offset
    have hlex : ∀ t : Text, lexemeAt? '/' (CodePoint.ofChar '/' :: t) =
        some (none, 1 + ((CodePoint.ofChar '/' :: t).takeWhile fun (d : CodePoint) =>
          decide (d ≠ '\n')).length) := fun _ => rfl
    have hline : ∀ c ∈ CodePoint.ofChar '/' :: content, decide (c ≠ '\n') = true := by
      simpa using ⟨by decide, hcontent⟩
    have hstop : (rest.takeWhile fun (d : CodePoint) => decide (d ≠ '\n')) = [] := by
      cases rest with
      | nil => rfl
      | cons c rest => simp [hrest c rfl]
    rw [List.cons_append, hlex, ← List.cons_append, List.takeWhile_append_of_pos hline, hstop,
      List.append_nil, Nat.add_comm]

/-- A comment between its marks leaves no token. -/
theorem lexemesFrom?_blockComment {comment : Text} (h : IsToken .blockComment comment)
    (rest : Text) (offset : Nat) :
    lexemesFrom? offset 0 (comment ++ rest) =
      lexemesFrom? (offset + comment.length) 0 rest := by
  cases h with
  | @blockComment content hcontent =>
    refine lexemesFrom?_of_none ?_ offset
    have hlex : ∀ t : Text, lexemeAt? '/' (CodePoint.ofChar '*' :: t) =
        (blockEnd? t).map fun length => (none, length + 2) := fun _ => rfl
    have hend : blockEnd? (content ++ [CodePoint.ofChar '*', CodePoint.ofChar '/'] ++ []) =
        some (content ++ [CodePoint.ofChar '*', CodePoint.ofChar '/']).length := by
      rw [List.append_nil, blockEnd?_content hcontent, List.length_append]
      rfl
    rw [List.cons_append, hlex, blockEnd?_append hend]
    rfl

/-- A blank leaves no token. -/
theorem lexemesFrom?_blank {c : CodePoint} (h : c.isBlank = true) (rest : Text) (offset : Nat) :
    lexemesFrom? offset 0 (c :: rest) = lexemesFrom? (offset + 1) 0 rest := by
  have hblank : lexemeAt? c ([] ++ rest) = some (none, 1) := by
    unfold lexemeAt?
    exact if_pos h
  exact lexemesFrom?_of_none hblank offset

/-- What stands between two tokens leaves none. -/
theorem IsGap.lexemesFrom?_append {gap : Text} (h : IsGap gap) (rest : Text) (offset : Nat) :
    lexemesFrom? offset 0 (gap ++ rest) = lexemesFrom? (offset + gap.length) 0 rest := by
  induction h generalizing offset with
  | nil => rfl
  | @blank c gap hc _ ih =>
    rw [List.cons_append, lexemesFrom?_blank hc, ih, List.length_cons, Nat.add_assoc,
      Nat.add_comm 1]
  | @lineComment comment gap hcomment _ ih =>
    have hline : TokenKind.lineComment.MayPrecede
        (CodePoint.ofChar '\n' :: gap ++ rest) := by
      rintro c hc
      cases hc
      rfl
    rw [List.append_assoc, lexemesFrom?_lineComment hcomment hline, List.cons_append,
      lexemesFrom?_blank (by decide), ih, List.length_append, List.length_cons]
    congr 1
    omega
  | @blockComment comment gap hcomment _ ih =>
    rw [List.append_assoc, lexemesFrom?_blockComment hcomment, ih, List.length_append,
      Nat.add_assoc]

/-- What stands behind the last token leaves none. -/
theorem IsLastGap.lexemesFrom?_eq {gap : Text} (h : IsLastGap gap) (offset : Nat) :
    lexemesFrom? offset 0 gap = some [] := by
  cases h with
  | gap h =>
    rw [← List.append_nil gap, h.lexemesFrom?_append]
    rfl
  | @lineComment gap comment hgap hcomment =>
    have hline : TokenKind.lineComment.MayPrecede [] := nofun
    rw [hgap.lexemesFrom?_append, ← List.append_nil comment,
      lexemesFrom?_lineComment hcomment hline]
    rfl

/-- A comment starts with a stop. -/
theorem isStop_of_comment {kind : TokenKind} {comment : Text} (h : IsToken kind comment)
    (hkind : kind = .lineComment ∨ kind = .blockComment) {c : CodePoint}
    (hc : comment.head? = some c) : IsStop c := by
  cases h with
  | regular => simp at hkind
  | verbatim => simp at hkind
  | lineComment =>
    cases hc
    exact .inr (.inl rfl)
  | blockComment =>
    cases hc
    exact .inr (.inl rfl)

/-- A gap that is not empty starts with a stop. -/
theorem IsGap.isStop_head {gap next : Text} (h : IsGap gap)
    (hnext : ∀ c, next.head? = some c → IsStop c) {c : CodePoint}
    (hc : (gap ++ next).head? = some c) : IsStop c := by
  cases h with
  | nil => exact hnext c hc
  | blank hblank =>
    cases hc
    exact .inl hblank
  | lineComment hcomment =>
    refine isStop_of_comment hcomment (.inl rfl) ?_
    cases hcomment with
    | lineComment => exact hc
  | blockComment hcomment =>
    refine isStop_of_comment hcomment (.inr rfl) ?_
    cases hcomment with
    | blockComment => exact hc

/-- A print starts with a stop, unless its first token is no mark. -/
theorem Printed.isStop_head {tokens : List Token} {t : Text} (h : Printed tokens t)
    (hmark : ∀ token, tokens.head? = some token → token.isMark = true) {c : CodePoint}
    (hc : t.head? = some c) : IsStop c := by
  cases h with
  | nil hgap => cases hgap with
    | gap hgap =>
      have hend : ∀ d, ([] : Text).head? = some d → IsStop d := nofun
      rw [← List.append_nil t] at hc
      exact hgap.isStop_head hend hc
    | lineComment hgap hcomment =>
      exact hgap.isStop_head (fun _ => isStop_of_comment hcomment (.inl rfl)) hc
  | @cons gap source rest token tokens hgap hsource hrest =>
    refine hgap.isStop_head (fun d hd => ?_) hc
    have htoken := hmark token rfl
    cases hsource with
    | mark hmem =>
      cases hd
      exact .inr (.inr hmem)
    | string | verbatim | name | escaped => cases htoken

/-- The tokens that are cut from a print are the ones that were printed. -/
theorem Printed.exists_lexemesFrom? {tokens : List Token} {t : Text} (h : Printed tokens t)
    (hseparated : Separated tokens) (offset : Nat) :
    ∃ lexemes, lexemesFrom? offset 0 t = some lexemes ∧ lexemes.map Lexeme.token = tokens := by
  induction h generalizing offset with
  | nil hgap => exact ⟨[], hgap.lexemesFrom?_eq offset, rfl⟩
  | @cons gap source rest token tokens hgap hsource hrest ih =>
    -- Only a mark may be followed by anything; behind another token the next one is a mark.
    have hstop : token.isMark = false → ∀ c, rest.head? = some c → IsStop c := by
      intro htoken c hc
      refine hrest.isStop_head (fun next hnext => ?_) hc
      refine (List.IsChain.rel_head? hseparated hnext).resolve_left ?_
      rw [htoken]
      decide
    obtain ⟨c, front, rfl, hlex⟩ := lexemeAt?_of_spells hsource hstop
    obtain ⟨later, hlater, htokens⟩ :=
      ih (List.IsChain.tail hseparated) (offset + gap.length + (c :: front).length)
    refine ⟨⟨token, offset + gap.length⟩ :: later, ?_, ?_⟩
    · rw [hgap.lexemesFrom?_append, lexemesFrom?_of_lexemeAt? hlex, hlater]
      rfl
    · rw [List.map_cons, htokens]

end TemplateLint.Expr
