import TemplateLint.Proofs.Literal.Units

/-!
# Offsets of values in the source

The walk over the source and the decoding take a literal apart at the same places. So
the offsets of a value go to the source in order, from the start of the content to its
end, and the part of the source between two of them, put between the opener and a
closing quote, is decoded to the part of the value between the two offsets.
-/

namespace TemplateLint.Literal

/-- The width of an escape is the number of its code points, also in front of the closing
quote, which is no digit. -/
theorem escapeWidth_append {text rest : Text} {c : CodePoint} (h : IsEscape text c rest) :
    escapeWidth (text ++ (rest ++ [CodePoint.ofChar '"'])) = text.length + 1 := by
  cases h with
  | @simple kind _ _ hkind =>
    have hx : kind ≠ 'x' := by rintro rfl; cases hkind
    have hu : kind ≠ 'u' := by rintro rfl; cases hkind
    have hU : kind ≠ 'U' := by rintro rfl; cases hkind
    rw [List.singleton_append, escapeWidth, if_neg hx, if_neg hu, if_neg hU]
    rfl
  | @greedy digits _ _ hne hlength hhex hstop hvalue =>
    have hclosed : digits.length = 4 ∨
        ∀ d, (rest ++ [CodePoint.ofChar '"']).head? = some d → ¬ d.isHexDigit := by
      refine hstop.imp id fun hstop d hd => ?_
      cases rest with
      | nil =>
        cases hd
        decide
      | cons e rest => exact hstop d hd
    rw [List.cons_append, escapeWidth, if_pos rfl, takeWhile_hex_greedy hlength hhex hclosed,
      List.length_cons]
    omega
  | @fixed kind digits _ _ hkind hhex hvalue =>
    rcases hkind with ⟨rfl, hlen⟩ | ⟨rfl, hlen⟩
    · rw [List.cons_append, escapeWidth, if_neg (by decide), if_pos rfl, List.length_cons, hlen]
    · rw [List.cons_append, escapeWidth, if_neg (by decide), if_neg (by decide), if_pos rfl,
        List.length_cons, hlen]

/-- The walk steps over a unit at its end. Only past the last unit may it ask for more, where
a quote pairs with the closing one. -/
theorem unitWidth_append {isVerbatim : Bool} {text rest : Text} {c : CodePoint}
    (h : IsUnit isVerbatim text c rest) :
    text.length ≤ unitWidth isVerbatim (text ++ (rest ++ [CodePoint.ofChar '"'])) ∧
      (rest ≠ [] →
        unitWidth isVerbatim (text ++ (rest ++ [CodePoint.ofChar '"'])) = text.length) := by
  cases h with
  | plain hc => simp [unitWidth, hc]
  | escape hescape => simp [unitWidth, escapeWidth_append hescape]
  | verbatim hc => simp [unitWidth, hc]
  | doubled => simp [unitWidth]
  | last => simp [unitWidth]

/-- The walk over some units takes their source. -/
theorem walk_sources {isVerbatim : Bool} {units : List ContentUnit} (h : Spelled isVerbatim units)
    (count : Nat) :
    walk isVerbatim count (sources units).length (sources units ++ [CodePoint.ofChar '"']) =
      (sources (units.take count)).length := by
  induction h generalizing count with
  | nil =>
    rw [List.take_nil]
    cases count <;> rfl
  | @cons unit units hunit _ ih =>
    cases count with
    | zero =>
      rw [List.take_zero]
      rfl
    | succ count =>
      have hpos := List.length_pos_iff.mpr hunit.source_ne_nil
      obtain ⟨hle, heq⟩ := unitWidth_append hunit
      have hlength : (sources (unit :: units)).length =
          unit.source.length + (sources units).length := by
        rw [sources_cons, List.length_append]
      obtain ⟨room, hroom⟩ : ∃ room, (sources (unit :: units)).length = room + 1 :=
        Nat.exists_eq_succ_of_ne_zero (by omega)
      have htake := congrArg List.length (sources_take_append units count)
      rw [List.length_append] at htake
      rw [hroom, walk, sources_cons, List.append_assoc, List.take_succ_cons, sources_cons,
        List.length_append]
      by_cases hrest : sources units = []
      · rw [hrest] at hlength htake hle ⊢
        rw [List.length_nil] at hlength htake
        rw [if_pos (by omega)]
        omega
      · have hmore := List.length_pos_iff.mpr hrest
        rw [heq hrest, if_neg (by omega), List.drop_left, ← ih count]
        congr 2
        omega

/-- An offset of the value goes to the end of the units in front of it. -/
theorem mapOffset_of_units {lit : Literal} {units : List ContentUnit}
    (hspelled : Spelled lit.isVerbatim units) (hsource : lit.source = lit.enclose (sources units))
    (offset : Int) :
    lit.mapOffset offset = lit.contentStart + (sources (units.take offset.toNat)).length := by
  have hdrop : lit.source.drop lit.contentStart = sources units ++ [CodePoint.ofChar '"'] := by
    rw [hsource, enclose, ← opener_length, List.drop_left]
  rw [mapOffset, contentEnd_of_enclose hsource, Nat.add_sub_cancel_left, hdrop,
    walk_sources hspelled]

/-- The units between two cuts complete those in front of the first. -/
theorem sources_between (units : List ContentUnit) {i j : Nat} (hij : i ≤ j) :
    sources (units.take i) ++ sources ((units.take j).drop i) = sources (units.take j) := by
  rw [← sources_take_append (units.take j) i, List.take_take, Nat.min_eq_left hij]

/-- The source between two offsets of the value is that of the units between them. -/
theorem slice_mapOffset {lit : Literal} {units : List ContentUnit}
    (hspelled : Spelled lit.isVerbatim units) (hsource : lit.source = lit.enclose (sources units))
    {i j : Nat} (hij : i ≤ j) :
    lit.source.slice (lit.mapOffset i) (lit.mapOffset j) = sources ((units.take j).drop i) := by
  have hmiddle := sources_between units hij
  have hsplit : lit.source = (lit.opener ++ sources (units.take i)) ++
      (sources ((units.take j).drop i) ++ (sources (units.drop j) ++ [CodePoint.ofChar '"'])) := by
    rw [hsource, enclose, ← sources_take_append units j, ← hmiddle]
    simp only [List.append_assoc]
  have hlength := congrArg List.length hmiddle
  rw [List.length_append] at hlength
  rw [mapOffset_of_units hspelled hsource, mapOffset_of_units hspelled hsource, Int.toNat_natCast,
    Int.toNat_natCast, ← hlength, ← Nat.add_assoc, ← opener_length, ← List.length_append, hsplit]
  exact Text.slice_append_append _ _ _

/-- The source between two offsets of the value is decoded to what stands between them. -/
theorem decode_slice {lit : Literal} {value : Text} (h : lit.value = .ok value) {i j : Nat}
    (hij : i ≤ j) :
    decode (lit.enclose (lit.source.slice (lit.mapOffset i) (lit.mapOffset j))) =
      .ok (value.slice i j) := by
  obtain ⟨units, hspelled, hsource, rfl⟩ := value_eq_ok_iff.mp h
  rw [slice_mapOffset hspelled hsource hij, decode_enclose lit ((hspelled.take j).drop i), values,
    values, Text.slice, List.map_drop, List.map_take, List.drop_take]

/-- Different offsets of the value go to different places in the source, in order. -/
theorem mapOffset_lt {lit : Literal} {value : Text} (h : lit.value = .ok value) {i j : Int}
    (hi : 0 ≤ i) (hij : i < j) (hj : j ≤ value.length) : lit.mapOffset i < lit.mapOffset j := by
  obtain ⟨units, hspelled, hsource, rfl⟩ := value_eq_ok_iff.mp h
  rw [length_values] at hj
  have hle : i.toNat ≤ j.toNat := Int.toNat_le_toNat (Int.le_of_lt hij)
  have hlength := congrArg List.length (sources_between units hle)
  have hne : (units.take j.toNat).drop i.toNat ≠ [] := by
    intro hnil
    have hcount := congrArg List.length hnil
    rw [List.length_drop, List.length_take, List.length_nil] at hcount
    omega
  have hpos := List.length_pos_iff.mpr (sources_ne_nil ((hspelled.take j.toNat).drop i.toNat) hne)
  rw [List.length_append] at hlength
  rw [mapOffset_of_units hspelled hsource, mapOffset_of_units hspelled hsource]
  omega

/-- Offsets before the value go to the start of the content. -/
theorem mapOffset_of_nonpos (lit : Literal) {k : Int} (hk : k ≤ 0) :
    lit.mapOffset k = lit.contentStart := by
  rw [mapOffset, Int.toNat_of_nonpos hk]
  rfl

/-- Offsets past the value go to the end of the content. -/
theorem mapOffset_of_length_le {lit : Literal} {value : Text} (h : lit.value = .ok value) {k : Int}
    (hk : value.length ≤ k) : lit.mapOffset k = lit.contentEnd := by
  obtain ⟨units, hspelled, hsource, rfl⟩ := value_eq_ok_iff.mp h
  rw [length_values] at hk
  rw [mapOffset_of_units hspelled hsource, contentEnd_of_enclose hsource,
    List.take_of_length_le (by omega)]

/-- Decoding and walking agree on every literal that has a value. The offsets of the value
go to the source in strictly increasing order, those before it to the start of the
content and those past it to the end, and the source between two of them, enclosed like
the literal, is decoded to the value between them. -/
theorem mapOffset_follows_decode {raw value : Text} (h : decode raw = .ok value) :
    (∀ i j : Int, 0 ≤ i → i < j → j ≤ value.length →
      (ofSource raw).mapOffset i < (ofSource raw).mapOffset j) ∧
    (∀ k : Int, k ≤ 0 → (ofSource raw).mapOffset k = (ofSource raw).contentStart) ∧
    (∀ k : Int, value.length ≤ k → (ofSource raw).mapOffset k = (ofSource raw).contentEnd) ∧
    ∀ i j : Nat, i ≤ j → j ≤ value.length →
      decode ((ofSource raw).enclose
        (raw.slice ((ofSource raw).mapOffset i) ((ofSource raw).mapOffset j))) =
        .ok (value.slice i j) := by
  have hvalue := decode_eq_ok_iff.mp h
  refine ⟨?_, ?_, ?_, ?_⟩
  · intro i j hi hij hj
    exact mapOffset_lt hvalue hi hij hj
  · intro k hk
    exact mapOffset_of_nonpos _ hk
  · intro k hk
    exact mapOffset_of_length_le hvalue hk
  · intro i j hij _
    exact decode_slice hvalue hij

/-- A short numeric escape in front of a letter that is no digit, a long one and an escaped
quote: the second and the third code point of the value are found between their offsets. -/
theorem mapOffset_follows_decode_escapes :
    let raw : Text := "\"a\\x41G\\t\\u0042\\\"\""
    decode raw = .ok (Text.ofString "aAG\tB\"") ∧
      decode ((ofSource raw).enclose
        (raw.slice ((ofSource raw).mapOffset (1 : Nat)) ((ofSource raw).mapOffset (3 : Nat)))) =
        .ok (Text.slice "aAG\tB\"" 1 3) := by
  intro raw
  have h : decode raw = .ok (Text.ofString "aAG\tB\"") := by decide
  exact ⟨h, (mapOffset_follows_decode h).2.2.2 1 3 (by decide) (by decide)⟩

end TemplateLint.Literal
