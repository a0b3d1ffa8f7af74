import Mathlib.Data.List.TakeWhile
import TemplateLint.Config.Reader
import TemplateLint.Proofs.Template.Rendering

/-!
# Values that name a role

A role is sought in the written form of a value, whatever kind of value it is, without outer
blanks and in lower case. Both steps keep a code point that is neither blank nor has another
case, and the words for roles hold small letters only; so a number, a list or an object, whose
written form holds a digit, a mark or a bracket, names no role. Main statement: the values that
name a role are the texts that do.
-/

namespace TemplateLint

namespace Text

/-- What is dropped from the front are blanks. -/
theorem mem_dropWhile_isBlank {c : CodePoint} {t : Text} (hmem : c ∈ t)
    (hc : c.isBlank = false) : c ∈ t.dropWhile CodePoint.isBlank := by
  rw [← List.takeWhile_append_dropWhile (p := CodePoint.isBlank) (l := t)] at hmem
  rcases List.mem_append.mp hmem with hfront | hback
  · have hblank := List.mem_takeWhile_imp hfront
    rw [hc] at hblank
    cases hblank
  · exact hback

/-- A code point that is not blank is not trimmed off. -/
theorem mem_trim {c : CodePoint} {t : Text} (hmem : c ∈ t) (hc : c.isBlank = false) :
    c ∈ t.trim := by
  have hleft : c ∈ t.trimLeft := mem_dropWhile_isBlank hmem hc
  exact List.mem_reverse.mpr (mem_dropWhile_isBlank (List.mem_reverse.mpr hleft) hc)

/-- Lower case keeps a code point that stands for itself, whatever is around it. -/
theorem mem_lowerAfter {c : CodePoint} {t earlier : Text} (hmem : c ∈ t) (hsigma : c ≠ 'Σ')
    (hcase : mapCase lowerSpecial lowerRuns c = [c]) : c ∈ lowerAfter earlier t := by
  induction t generalizing earlier with
  | nil => cases hmem
  | cons d rest ih =>
    rw [lowerAfter]
    rcases List.mem_cons.mp hmem with rfl | hrest
    · refine List.mem_append_left _ ?_
      rw [if_neg hsigma, hcase]
      exact List.mem_singleton_self c
    · exact List.mem_append_right _ (ih hrest)

end Text

namespace Role

/-- The role that a text names is the one whose name it is. -/
theorem parse_eq_ok_iff {text : Text} {role : Role} :
    parse text = .ok role ↔ text.trim.lower = role.name := by
  have hall : ∀ role : Role, all.find? (fun found => found.name = role.name) = some role := by
    intro role
    cases role <;> rfl
  unfold parse
  dsimp only
  constructor
  · intro h
    split at h
    · next found hfound =>
      cases h
      have hname := List.find?_some hfound
      exact (of_decide_eq_true hname).symm
    · cases h
  · intro h
    rw [h, hall]

/-- The words for roles hold small letters only. -/
theorem isAsciiLower_of_mem_name {role : Role} {c : CodePoint} (h : c ∈ role.name) :
    c.isAsciiLower = true := by
  have hall : ∀ c ∈ role.name, c.isAsciiLower = true := by
    cases role <;> decide
  exact hall c h

/-- A code point that no text with the name of a role holds: it is kept when the text is
looked up, and it is no small letter. -/
structure IsForeign (c : CodePoint) : Prop where
  /-- It is not trimmed off. -/
  isBlank_eq : c.isBlank = false
  /-- It has no form of its own at the end of a word. -/
  ne_sigma : c ≠ 'Σ'
  /-- It stands for itself in lower case. -/
  mapCase_eq : Text.mapCase Text.lowerSpecial Text.lowerRuns c = [c]
  /-- It is no small letter. -/
  isAsciiLower_eq : c.isAsciiLower = false

/-- A text with a foreign code point names no role. -/
theorem parse_ne_ok_of_mem {text : Text} {role : Role} {c : CodePoint} (hmem : c ∈ text)
    (hc : IsForeign c) : parse text ≠ .ok role := by
  intro h
  have hkept : c ∈ text.trim.lower :=
    Text.mem_lowerAfter (Text.mem_trim hmem hc.isBlank_eq) hc.ne_sigma hc.mapCase_eq
  rw [parse_eq_ok_iff.mp h] at hkept
  have hsmall := isAsciiLower_of_mem_name hkept
  rw [hc.isAsciiLower_eq] at hsmall
  cases hsmall

/-- Digits are foreign. -/
theorem isForeign_of_isAsciiDigit {c : CodePoint} (h : c.isAsciiDigit = true) :
    IsForeign c := by
  have hall : ∀ digit : Fin 10, ∀ hlt : 0x30 + digit.val < 0x110000,
      (CodePoint.mk (0x30 + digit.val) hlt).isBlank = false ∧
        CodePoint.mk (0x30 + digit.val) hlt ≠ 'Σ' ∧
        Text.mapCase Text.lowerSpecial Text.lowerRuns ⟨0x30 + digit.val, hlt⟩ =
          [⟨0x30 + digit.val, hlt⟩] ∧
        (CodePoint.mk (0x30 + digit.val) hlt).isAsciiLower = false := by
    decide +kernel
  obtain ⟨n, hlt⟩ := c
  simp only [CodePoint.isAsciiDigit, Bool.and_eq_true, decide_eq_true_eq] at h
  obtain ⟨digit, rfl⟩ : ∃ digit, n = 0x30 + digit := ⟨n - 0x30, by omega⟩
  obtain ⟨hblank, hsigma, hcase, hsmall⟩ := hall ⟨digit, by omega⟩ hlt
  exact ⟨hblank, hsigma, hcase, hsmall⟩

/-- The marks of numbers, and the brackets around lists and objects. -/
def valueMarks : List CodePoint :=
  ['.', '+', '-', '[', '\x7b'].map CodePoint.ofChar

/-- Marks and brackets are foreign. -/
theorem isForeign_of_mem_valueMarks {c : CodePoint} (h : c ∈ valueMarks) : IsForeign c := by
  have hall : ∀ c ∈ valueMarks, c.isBlank = false ∧ c ≠ 'Σ' ∧
      Text.mapCase Text.lowerSpecial Text.lowerRuns c = [c] ∧ c.isAsciiLower = false := by
    decide +kernel
  obtain ⟨hblank, hsigma, hcase, hsmall⟩ := hall c h
  exact ⟨hblank, hsigma, hcase, hsmall⟩

/-- The words for values that are written with letters only. -/
def valueWords : List Text :=
  ["None", "True", "False", "inf", "-inf", "nan"].map Text.ofString

/-- A word for a value names no role. -/
theorem parse_ne_ok_of_mem_valueWords {word : Text} (h : word ∈ valueWords) (role : Role) :
    parse word ≠ .ok role := by
  have hall : ∀ word ∈ valueWords, ∀ role ∈ all, word.trim.lower ≠ role.name := by
    decide +kernel
  have hrole : role ∈ all := by cases role <;> decide
  intro hparse
  exact hall word h role hrole (parse_eq_ok_iff.mp hparse)

end Role

namespace Config

open Json Role

/-- A number written with digits is written with a point or with the sign of an exponent. -/
theorem exists_mark_of_layout (d : Decimal) : ∃ c ∈ d.layout, c ∈ valueMarks := by
  unfold Decimal.layout
  dsimp only
  split
  · by_cases hnegative : d.exponent < 0
    · exact ⟨'-', by simp [hnegative, Text.ofString], by decide⟩
    · exact ⟨'+', by simp [hnegative, Text.ofString], by decide⟩
  · refine ⟨'.', ?_, by decide⟩
    split <;> simp [Text.ofString]

/-- A double names no role: a finite one is written with a mark, and the words for the others
are no roles. -/
theorem parse_realText_ne_ok (bits : UInt64) (role : Role) :
    Role.parse (realText "inf" "nan" bits) ≠ .ok role := by
  have hpoint : ∀ sign : Text, Role.parse (sign ++ "0.0") ≠ .ok role := fun sign =>
    parse_ne_ok_of_mem (List.mem_append_right _ (by decide : CodePoint.ofChar '.' ∈ _))
      (isForeign_of_mem_valueMarks (by decide))
  unfold realText
  dsimp only
  split
  · split
    · split
      · exact parse_ne_ok_of_mem_valueWords (by decide) role
      · exact parse_ne_ok_of_mem_valueWords (by decide) role
    · exact parse_ne_ok_of_mem_valueWords (by decide) role
  · split
    · exact hpoint _
    · obtain ⟨c, hmem, hmark⟩ := exists_mark_of_layout _
      exact parse_ne_ok_of_mem (List.mem_append_right _ hmem) (isForeign_of_mem_valueMarks hmark)

/-- A natural number in digits, perhaps behind a sign, names no role. -/
theorem parse_append_ofNat_ne_ok (sign : Text) (n : Nat) (role : Role) :
    Role.parse (sign ++ Text.ofNat n) ≠ .ok role := by
  obtain ⟨c, hmem⟩ := List.exists_mem_of_ne_nil _ (Text.ofNat_ne_nil n)
  exact parse_ne_ok_of_mem (List.mem_append_right _ hmem)
    (isForeign_of_isAsciiDigit (Text.isAsciiDigit_of_mem_ofNat hmem))

/-- The written form of a value that is no text names no role. -/
theorem parse_display_ne_ok {value : Json} (hvalue : ∀ text, value ≠ .string text) (role : Role) :
    Role.parse value.display ≠ .ok role := by
  cases value with
  | null =>
    rw [display]
    exact parse_ne_ok_of_mem_valueWords (by decide) role
  | bool value =>
    cases value
    · rw [display]
      exact parse_ne_ok_of_mem_valueWords (by decide) role
    · rw [display]
      exact parse_ne_ok_of_mem_valueWords (by decide) role
  | int n =>
    rw [display]
    cases n with
    | ofNat n => exact parse_append_ofNat_ne_ok [] n role
    | negSucc n => exact parse_append_ofNat_ne_ok ['-'] (n + 1) role
  | real bits =>
    rw [display]
    exact parse_realText_ne_ok bits role
  | string text => exact absurd rfl (hvalue text)
  | array items =>
    rw [display]
    exact parse_ne_ok_of_mem List.mem_cons_self
      (isForeign_of_mem_valueMarks (by decide : CodePoint.ofChar '[' ∈ _))
  | object members =>
    rw [display]
    exact parse_ne_ok_of_mem List.mem_cons_self
      (isForeign_of_mem_valueMarks (by decide : CodePoint.ofChar '\x7b' ∈ _))

/-- The values that name a role are the texts that do. -/
theorem role?_eq_some_iff {value : Json} {role : Role} :
    role? value = some role ↔ ∃ text, value = .string text ∧ text.trim.lower = role.name := by
  have hoption : role? value = some role ↔ Role.parse (roleText value) = .ok role := by
    unfold role?
    cases Role.parse (roleText value) <;> simp [Except.toOption]
  rw [hoption]
  constructor
  · intro h
    by_cases htext : ∃ text, value = .string text
    · obtain ⟨text, rfl⟩ := htext
      exact ⟨text, rfl, Role.parse_eq_ok_iff.mp h⟩
    · have hother : ∀ text, value ≠ .string text := fun text he => htext ⟨text, he⟩
      rw [roleText.eq_2 value hother] at h
      exact absurd h (parse_display_ne_ok hother role)
  · rintro ⟨text, rfl, hname⟩
    exact Role.parse_eq_ok_iff.mpr hname

end Config

end TemplateLint
