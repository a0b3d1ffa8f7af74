import Mathlib.Data.List.Basic
import Mathlib.Data.List.TakeWhile
import TemplateLint.Proofs.Basic
import TemplateLint.Text.Utf8

/-!
# Reading and writing bytes

The bytes of a code point are a first byte, whose range tells how many bytes follow, and
bytes that each carry six binary digits. Writing a code point that is no surrogate gives such
a sequence and reading takes exactly such sequences, so reading and writing texts are inverse
to each other: a text that was read writes the bytes it was read from, and a text without
surrogates is read back from its bytes.
-/

namespace TemplateLint.Text

open Outcome

variable {n position : Nat} {first : UInt8} {more rest bytes : List UInt8} {t : Text}

/-- The sequence that spells the code point with a number: its first byte and those that
follow it. -/
inductive Spells (n : Nat) (first : UInt8) : List UInt8 → Prop
  /-- One byte. -/
  | one (hn : n < 0x80) (hfirst : first.toNat = n) : Spells n first []
  /-- Two bytes. -/
  | two {second : UInt8} (hlow : 0x80 ≤ n) (hhigh : n < 0x800)
      (hfirst : first.toNat = 0xC0 + n / 64) (hsecond : second.toNat = 0x80 + n % 64) :
    Spells n first [second]
  /-- Three bytes, which spell no surrogate. -/
  | three {second third : UInt8} (hlow : 0x800 ≤ n) (hhigh : n < 0x10000)
      (hchar : n < 0xD800 ∨ 0xDFFF < n) (hfirst : first.toNat = 0xE0 + n / 4096)
      (hsecond : second.toNat = 0x80 + n / 64 % 64) (hthird : third.toNat = 0x80 + n % 64) :
    Spells n first [second, third]
  /-- Four bytes. -/
  | four {second third fourth : UInt8} (hlow : 0x10000 ≤ n) (hhigh : n < 0x110000)
      (hfirst : first.toNat = 0xF0 + n / 262144) (hsecond : second.toNat = 0x80 + n / 4096 % 64)
      (hthird : third.toNat = 0x80 + n / 64 % 64) (hfourth : fourth.toNat = 0x80 + n % 64) :
    Spells n first [second, third, fourth]

/-- What is spelled is a code point. -/
theorem Spells.lt (h : Spells n first more) : n < 0x110000 := by
  cases h <;> omega

/-- What is spelled is no surrogate. -/
theorem Spells.isSurrogate_eq_false (h : Spells n first more) :
    CodePoint.isSurrogate ⟨n, h.lt⟩ = false := by
  have hrange : n < 0xD800 ∨ 0xDFFF < n := by
    cases h with
    | three hlow hhigh hchar _ _ _ => exact hchar
    | one => omega
    | two => omega
    | four => omega
  simp only [CodePoint.isSurrogate, Bool.and_eq_false_iff, decide_eq_false_iff_not]
  omega

/-- A byte is known by its number. -/
theorem ofNat_eq_of_toNat_eq {b : UInt8} {k : Nat} (h : b.toNat = k) : UInt8.ofNat k = b := by
  rw [← h, UInt8.ofNat_toNat]

/-- The sequence that spells a code point is what is written for it. -/
theorem Spells.encodePoint_eq (h : Spells n first more) :
    encodePoint ⟨n, h.lt⟩ = first :: more := by
  unfold encodePoint
  dsimp only
  cases h with
  | one hn hfirst => rw [if_pos hn, ofNat_eq_of_toNat_eq hfirst]
  | two hlow hhigh hfirst hsecond =>
    rw [if_neg (by omega), if_pos hhigh, ofNat_eq_of_toNat_eq hfirst,
      ofNat_eq_of_toNat_eq hsecond]
  | three hlow hhigh hchar hfirst hsecond hthird =>
    rw [if_neg (by omega), if_neg (by omega), if_pos hhigh, ofNat_eq_of_toNat_eq hfirst,
      ofNat_eq_of_toNat_eq hsecond, ofNat_eq_of_toNat_eq hthird]
  | four hlow hhigh hfirst hsecond hthird hfourth =>
    rw [if_neg (by omega), if_neg (by omega), if_neg (by omega), ofNat_eq_of_toNat_eq hfirst,
      ofNat_eq_of_toNat_eq hsecond, ofNat_eq_of_toNat_eq hthird, ofNat_eq_of_toNat_eq hfourth]

/-- What is written for a code point that is no surrogate spells it. -/
theorem exists_spells {c : CodePoint} (hc : c.isSurrogate = false) :
    ∃ first more, Spells c.val first more := by
  have hlt := c.isLt
  have hchar : c.val < 0xD800 ∨ 0xDFFF < c.val := by
    simp only [CodePoint.isSurrogate, Bool.and_eq_false_iff, decide_eq_false_iff_not] at hc
    omega
  have hbyte : ∀ k, k < 256 → (UInt8.ofNat k).toNat = k := by
    intro k hk
    rw [UInt8.toNat_ofNat', Nat.mod_eq_of_lt hk]
  by_cases hone : c.val < 0x80
  · exact ⟨_, _, .one hone (hbyte _ (by omega))⟩
  by_cases htwo : c.val < 0x800
  · exact ⟨_, _, .two (by omega) htwo (hbyte _ (by omega)) (hbyte _ (by omega))⟩
  by_cases hthree : c.val < 0x10000
  · exact ⟨_, _, .three (by omega) hthree hchar (hbyte _ (by omega)) (hbyte _ (by omega))
      (hbyte _ (by omega))⟩
  · exact ⟨_, _, .four (by omega) hlt (hbyte _ (by omega)) (hbyte _ (by omega))
      (hbyte _ (by omega)) (hbyte _ (by omega))⟩

/-- Bytes that belong to a sequence already read are passed over. -/
theorem decodeUtf8From_skip (position skip : Nat) (bytes : List UInt8) :
    decodeUtf8From position skip bytes =
      decodeUtf8From (position + skip) 0 (bytes.drop skip) := by
  induction bytes generalizing position skip with
  | nil => rw [List.drop_nil, decodeUtf8From, decodeUtf8From]
  | cons first rest ih =>
    cases skip with
    | zero => rfl
    | succ skip =>
      have hposition : position + (skip + 1) = position + 1 + skip := by omega
      rw [decodeUtf8From, ih, List.drop_succ_cons, hposition]

/-- Bytes that continue a sequence, by their numbers. -/
theorem isContinuation_iff {b : UInt8} :
    isContinuation b = true ↔ 0x80 ≤ b.toNat ∧ b.toNat ≤ 0xBF := by
  simp only [isContinuation, Bool.and_eq_true, decide_eq_true_eq, UInt8.le_iff_toNat_le]
  rfl

/-- Bytes that may follow a first one, by their numbers. -/
theorem mayFollow_iff {first second : UInt8} :
    mayFollow first second = true ↔ (0x80 ≤ second.toNat ∧ second.toNat ≤ 0xBF) ∧
      (first.toNat = 0xE0 → 0xA0 ≤ second.toNat) ∧ (first.toNat = 0xED → second.toNat < 0xA0) ∧
      (first.toNat = 0xF0 → 0x90 ≤ second.toNat) ∧ (first.toNat = 0xF4 → second.toNat < 0x90) := by
  have hbeq : ∀ byte : UInt8, (first == byte) = decide (first.toNat = byte.toNat) := by
    intro byte
    rw [Bool.eq_iff_iff, beq_iff_eq, decide_eq_true_eq, UInt8.toNat_inj]
  simp only [mayFollow, hbeq, Bool.and_eq_true, isContinuation_iff, Bool.not_eq_true',
    Bool.and_eq_false_iff, decide_eq_false_iff_not, UInt8.lt_iff_toNat_lt,
    UInt8.le_iff_toNat_le, UInt8.reduceToNat]
  omega

/-- Number of bytes that follow a first byte, by its number. -/
theorem followers_eq (b : UInt8) :
    followers b = if b.toNat < 0x80 then some 0 else if b.toNat < 0xC2 then none
      else if b.toNat < 0xE0 then some 1 else if b.toNat < 0xF0 then some 2
      else if b.toNat < 0xF5 then some 3 else none := by
  simp only [followers, UInt8.lt_iff_toNat_lt, UInt8.reduceToNat]

/-- The bytes that continue a sequence are all there exactly when a second byte may follow and
the others continue. -/
theorem followed_eq_iff {count : Nat} :
    followed first (count + 1) rest = count + 1 ↔
      ∃ second tail later, rest = second :: (tail ++ later) ∧ tail.length = count ∧
        mayFollow first second = true ∧ ∀ b ∈ tail, isContinuation b = true := by
  cases rest with
  | nil =>
    refine ⟨nofun, ?_⟩
    rintro ⟨second, tail, later, hrest, _⟩
    cases hrest
  | cons second others =>
    rw [followed, Nat.add_sub_cancel]
    constructor
    · intro h
      split at h
      · next hfollow =>
        have hprefix := List.takeWhile_prefix (l := others.take count) isContinuation
        have hlength : (others.take count).length = count := by
          have hle := hprefix.length_le
          have htake := List.length_take_le count others
          omega
        have hall : (others.take count).takeWhile isContinuation = others.take count :=
          hprefix.eq_of_length (by omega)
        refine ⟨second, others.take count, others.drop count, ?_, hlength, hfollow, ?_⟩
        · rw [List.take_append_drop]
        · exact List.takeWhile_eq_self_iff.mp hall
      · cases h
    · rintro ⟨_, tail, later, hrest, rfl, hfollow, hall⟩
      cases hrest
      rw [if_pos hfollow, List.take_left, List.takeWhile_eq_self_iff.mpr hall]
      omega

/-- The first byte of a spelling tells how many bytes follow it. -/
theorem Spells.followers_eq (h : Spells n first more) : followers first = some more.length := by
  rw [Text.followers_eq]
  cases h with
  | one hn hfirst => rw [if_pos (by omega), List.length_nil]
  | two hlow hhigh hfirst hsecond =>
    rw [if_neg (by omega), if_neg (by omega), if_pos (by omega)]
    rfl
  | three hlow hhigh hchar hfirst hsecond hthird =>
    rw [if_neg (by omega), if_neg (by omega), if_neg (by omega), if_pos (by omega)]
    rfl
  | four hlow hhigh hfirst hsecond hthird hfourth =>
    rw [if_neg (by omega), if_neg (by omega), if_neg (by omega), if_neg (by omega),
      if_pos (by omega)]
    rfl

/-- The bytes of a spelling follow its first byte. -/
theorem Spells.followed_eq (h : Spells n first more) {count : Nat}
    (hcount : more.length = count + 1) (rest : List UInt8) :
    followed first (count + 1) (more ++ rest) = count + 1 := by
  refine followed_eq_iff.mpr ?_
  cases h with
  | one hn hfirst => cases hcount
  | @two second hlow hhigh hfirst hsecond =>
    cases hcount
    exact ⟨second, [], rest, rfl, rfl, mayFollow_iff.mpr (by omega), List.forall_mem_nil _⟩
  | @three second third hlow hhigh hchar hfirst hsecond hthird =>
    cases hcount
    refine ⟨second, [third], rest, rfl, rfl, mayFollow_iff.mpr (by omega), ?_⟩
    simp only [List.forall_mem_singleton, isContinuation_iff]
    omega
  | @four second third fourth hlow hhigh hfirst hsecond hthird hfourth =>
    cases hcount
    refine ⟨second, [third, fourth], rest, rfl, rfl, mayFollow_iff.mpr (by omega), ?_⟩
    simp only [List.forall_mem_cons, isContinuation_iff]
    exact ⟨by omega, by omega, List.forall_mem_nil _⟩

/-- A spelling writes its number. -/
theorem Spells.sequenceValue_eq (h : Spells n first more) : sequenceValue first more = n := by
  cases h with
  | one hn hfirst => exact hfirst
  | two hlow hhigh hfirst hsecond =>
    simp only [sequenceValue, List.length_cons, List.length_nil, List.foldl_cons, List.foldl_nil]
    omega
  | three hlow hhigh hchar hfirst hsecond hthird =>
    simp only [sequenceValue, List.length_cons, List.length_nil, List.foldl_cons, List.foldl_nil]
    omega
  | four hlow hhigh hfirst hsecond hthird hfourth =>
    simp only [sequenceValue, List.length_cons, List.length_nil, List.foldl_cons, List.foldl_nil]
    omega

/-- A code point is known by its number. -/
theorem toList_ofNat? {k : Nat} (h : n < 0x110000) (hk : k = n) :
    (CodePoint.ofNat? k).toList = [⟨n, h⟩] := by
  subst hk
  rw [CodePoint.ofNat?, dif_pos h]
  rfl

/-- A spelling in front is read as its code point. -/
theorem Spells.decode_append (h : Spells n first more) (position : Nat) (rest : List UInt8) :
    decodeUtf8From position 0 (first :: (more ++ rest)) =
      (decodeUtf8From (position + (more.length + 1)) 0 rest).map (⟨n, h.lt⟩ :: ·) := by
  have hfollowers := h.followers_eq
  rw [decodeUtf8From]
  cases hlength : more.length with
  | zero =>
    have hmore := List.length_eq_zero_iff.mp hlength
    subst hmore
    have hpoint := toList_ofNat? h.lt h.sequenceValue_eq
    rw [hlength] at hfollowers
    simp only [hfollowers]
    rw [List.nil_append]
    cases decodeUtf8From (position + 1) 0 rest with
    | error e => rfl
    | ok tail => exact congrArg (fun point => Except.ok (point ++ tail)) hpoint
  | succ count =>
    have hpoint := toList_ofNat? h.lt h.sequenceValue_eq
    have hposition : position + 1 + (count + 1) = position + (count + 1 + 1) := by omega
    rw [hlength] at hfollowers
    simp only [hfollowers]
    rw [if_pos (h.followed_eq hlength rest), ← hlength, List.take_left, hpoint,
      decodeUtf8From_skip, List.drop_left, hlength, hposition]
    cases decodeUtf8From (position + (count + 1 + 1)) 0 rest <;> rfl

/-- A second byte that may follow its first one spells a code point with it. -/
theorem spells_two {second : UInt8} (hlow : 0xC2 ≤ first.toNat) (hhigh : first.toNat < 0xE0)
    (hsecond : mayFollow first second = true) :
    Spells (sequenceValue first [second]) first [second] := by
  have hfollow := mayFollow_iff.mp hsecond
  have hvalue : sequenceValue first [second] =
      64 * (first.toNat - 0xC0) + (second.toNat - 0x80) := rfl
  rw [hvalue]
  exact .two (by omega) (by omega) (by omega) (by omega)

/-- Two bytes that follow a first one as they may spell a code point with it. -/
theorem spells_three {second third : UInt8} (hlow : 0xE0 ≤ first.toNat)
    (hhigh : first.toNat < 0xF0) (hsecond : mayFollow first second = true)
    (hthird : isContinuation third = true) :
    Spells (sequenceValue first [second, third]) first [second, third] := by
  have hfollow := mayFollow_iff.mp hsecond
  have hcontinue := isContinuation_iff.mp hthird
  have hvalue : sequenceValue first [second, third] =
      64 * (64 * (first.toNat - 0xE0) + (second.toNat - 0x80)) + (third.toNat - 0x80) := rfl
  rw [hvalue]
  exact .three (by omega) (by omega) (by omega) (by omega) (by omega) (by omega)

/-- Three bytes that follow a first one as they may spell a code point with it. -/
theorem spells_four {second third fourth : UInt8} (hlow : 0xF0 ≤ first.toNat)
    (hhigh : first.toNat < 0xF5) (hsecond : mayFollow first second = true)
    (hthird : isContinuation third = true) (hfourth : isContinuation fourth = true) :
    Spells (sequenceValue first [second, third, fourth]) first [second, third, fourth] := by
  have hfollow := mayFollow_iff.mp hsecond
  have hcontinue := isContinuation_iff.mp hthird
  have hlast := isContinuation_iff.mp hfourth
  have hvalue : sequenceValue first [second, third, fourth] =
      64 * (64 * (64 * (first.toNat - 0xF0) + (second.toNat - 0x80)) + (third.toNat - 0x80)) +
        (fourth.toNat - 0x80) := rfl
  rw [hvalue]
  exact .four (by omega) (by omega) (by omega) (by omega) (by omega) (by omega)

/-- Bytes that are all there after a first byte spell a code point with it. -/
theorem exists_spells_of_followed {count : Nat} (hcount : followers first = some (count + 1))
    (hfollowed : followed first (count + 1) rest = count + 1) :
    ∃ n more later, Spells n first more ∧ rest = more ++ later := by
  obtain ⟨second, tail, later, rfl, hlength, hsecond, hall⟩ := followed_eq_iff.mp hfollowed
  rw [Text.followers_eq] at hcount
  split at hcount
  · cases hcount
  split at hcount
  · cases hcount
  split at hcount
  · cases hcount
    have htail := List.length_eq_zero_iff.mp hlength
    subst htail
    exact ⟨_, [second], later, spells_two (by omega) (by omega) hsecond, rfl⟩
  split at hcount
  · cases hcount
    obtain ⟨third, rfl⟩ := List.length_eq_one_iff.mp hlength
    have hthird := hall third List.mem_cons_self
    exact ⟨_, [second, third], later, spells_three (by omega) (by omega) hsecond hthird, rfl⟩
  split at hcount
  · cases hcount
    obtain ⟨third, fourth, rfl⟩ := List.length_eq_two.mp hlength
    have hthird := hall third List.mem_cons_self
    have hfourth := hall fourth (List.mem_cons_of_mem _ List.mem_cons_self)
    exact ⟨_, [second, third, fourth], later,
      spells_four (by omega) (by omega) hsecond hthird hfourth, rfl⟩
  · cases hcount

/-- Bytes that are read start with a spelling. -/
theorem exists_spells_of_decode (h : decodeUtf8From position 0 (first :: rest) = .ok t) :
    ∃ n more later, Spells n first more ∧ rest = more ++ later := by
  rw [decodeUtf8From] at h
  cases hcount : followers first with
  | none =>
    simp only [hcount] at h
    cases h
  | some count =>
    cases count with
    | zero =>
      have hfirst : first.toNat < 0x80 := by
        rw [Text.followers_eq] at hcount
        grind
      exact ⟨first.toNat, [], rest, .one hfirst rfl, rfl⟩
    | succ count =>
      simp only [hcount] at h
      split at h
      · next hfollowed => exact exists_spells_of_followed hcount hfollowed
      · split at h <;> cases h

/-- A text that is read writes the bytes it was read from, and has no surrogates. -/
theorem encodeUtf8_of_decodeUtf8From (h : decodeUtf8From position 0 bytes = .ok t) :
    encodeUtf8 t = bytes ∧ ∀ c ∈ t, c.isSurrogate = false := by
  induction hlength : bytes.length using Nat.strong_induction_on generalizing position bytes t with
  | _ length ih =>
  cases bytes with
  | nil =>
    rw [decodeUtf8From] at h
    cases h
    exact ⟨rfl, List.forall_mem_nil _⟩
  | cons first rest =>
    obtain ⟨n, more, later, hspells, rfl⟩ := exists_spells_of_decode h
    rw [hspells.decode_append] at h
    obtain ⟨tail, htail, rfl⟩ := map_eq_ok h
    have hshorter : later.length < length := by
      rw [← hlength, List.length_cons, List.length_append]
      omega
    obtain ⟨hencode, hscalar⟩ := ih later.length hshorter htail rfl
    refine ⟨?_, List.forall_mem_cons.mpr ⟨hspells.isSurrogate_eq_false, hscalar⟩⟩
    rw [encodeUtf8, List.flatMap_cons, hspells.encodePoint_eq]
    exact congrArg (first :: more ++ ·) hencode

/-- A text without surrogates is read back from its bytes, wherever they stand. -/
theorem decodeUtf8From_encodeUtf8 (h : ∀ c ∈ t, c.isSurrogate = false) (position : Nat) :
    decodeUtf8From position 0 (encodeUtf8 t) = .ok t := by
  induction t generalizing position with
  | nil => rw [encodeUtf8, List.flatMap_nil, decodeUtf8From]
  | cons c t ih =>
    obtain ⟨hc, ht⟩ := List.forall_mem_cons.mp h
    obtain ⟨first, more, hspells⟩ := exists_spells hc
    have hpoint : encodePoint c = first :: more := hspells.encodePoint_eq
    have hread := hspells.decode_append position (encodeUtf8 t)
    rw [ih ht] at hread
    rw [encodeUtf8, List.flatMap_cons, hpoint]
    exact hread

/-- Bytes are those of a text without surrogates exactly when they are read as this text. -/
theorem decodeUtf8_eq_ok_iff :
    decodeUtf8 bytes = .ok t ↔ encodeUtf8 t = bytes ∧ ∀ c ∈ t, c.isSurrogate = false := by
  constructor
  · exact encodeUtf8_of_decodeUtf8From
  · rintro ⟨rfl, hscalar⟩
    exact decodeUtf8From_encodeUtf8 hscalar 0

/-- A permutation of a text has as many bytes. -/
theorem length_encodeUtf8_of_perm {u : Text} (h : t.Perm u) :
    (encodeUtf8 t).length = (encodeUtf8 u).length :=
  (h.flatMap_right encodePoint).length_eq

end TemplateLint.Text
