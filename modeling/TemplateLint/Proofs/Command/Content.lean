import TemplateLint.Command.Run
import TemplateLint.Proofs.Source.Mended
import TemplateLint.Proofs.Text.Encoding

/-!
# What source files hold

The bytes of a source file are a byte order mark or nothing, and the bytes of a text without
surrogates. Reading a file finds the mark and the text, and there is only one way to cut the
bytes like that. Mending permutes the text behind its first code point, so the bytes that are
written hold the mended text behind the same mark, and they are as many as before.
-/

namespace TemplateLint.Command

/-- The bytes of the byte order mark. -/
def markBytes : List UInt8 := [0xEF, 0xBB, 0xBF]

/-- The bytes in front of a text. -/
def markPart (hasMark : Bool) : List UInt8 := if hasMark then markBytes else []

/-- The bytes of a file hold a source text. -/
structure Holds (bytes : List UInt8) (source : SourceText) : Prop where
  /-- The bytes are those of the text behind those of the mark. -/
  bytes_eq : bytes = markPart source.hasMark ++ Text.encodeUtf8 source.text
  /-- The text has no surrogates. -/
  scalar : ∀ c ∈ source.text, c.isSurrogate = false
  /-- A mark is never left in the text. -/
  hasMark_iff : source.hasMark = true ↔ markBytes <+: bytes

/-- The bytes of a file are the UTF-8 form of a text. -/
def IsUtf8 (bytes : List UInt8) : Prop :=
  ∃ t : Text, Text.encodeUtf8 t = bytes ∧ ∀ c ∈ t, c.isSurrogate = false

variable {bytes : List UInt8} {source : SourceText} {t : Text}

/-- The bytes of the mark spell it. -/
theorem spells_mark : Text.Spells 0xFEFF 0xEF [0xBB, 0xBF] :=
  .three (by decide) (by decide) (by decide) rfl rfl rfl

/-- The bytes of a text behind a mark. -/
theorem encodeUtf8_mark (t : Text) :
    Text.encodeUtf8 (byteOrderMark :: t) = markBytes ++ Text.encodeUtf8 t := by
  rw [Text.encodeUtf8, List.flatMap_cons]
  exact congrArg (· ++ _) spells_mark.encodePoint_eq

/-- The bytes of a source text are those of its mark and of its text. -/
theorem bytes_eq_markPart (source : SourceText) :
    source.bytes = markPart source.hasMark ++ Text.encodeUtf8 source.text := by
  rw [SourceText.bytes, markPart]
  split
  · exact encodeUtf8_mark source.text
  · rfl

/-- A text starts with the mark exactly when the bytes it is read from do. -/
theorem head?_eq_mark_iff (h : Text.decodeUtf8 bytes = .ok t) :
    t.head? = some byteOrderMark ↔ markBytes <+: bytes := by
  constructor
  · intro hhead
    obtain ⟨rest, rfl⟩ := List.head?_eq_some_iff.mp hhead
    rw [← (Text.decodeUtf8_eq_ok_iff.mp h).1, encodeUtf8_mark]
    exact List.prefix_append _ _
  · rintro ⟨rest, rfl⟩
    have hread := spells_mark.decode_append 0 rest
    obtain ⟨tail, _, rfl⟩ := Outcome.map_eq_ok (hread.symm.trans h)
    rfl

/-- What is read from bytes is what they hold. -/
theorem holds_ofText (h : Text.decodeUtf8 bytes = .ok t) : Holds bytes (.ofText t) := by
  have hmark := head?_eq_mark_iff h
  obtain ⟨rfl, hscalar⟩ := Text.decodeUtf8_eq_ok_iff.mp h
  unfold SourceText.ofText
  split
  · next hhead =>
    obtain ⟨rest, rfl⟩ := List.head?_eq_some_iff.mp hhead
    exact ⟨encodeUtf8_mark rest, (List.forall_mem_cons.mp hscalar).2,
      iff_of_true rfl (hmark.mp hhead)⟩
  · next hhead => exact ⟨rfl, hscalar, iff_of_false nofun (mt hmark.mpr hhead)⟩

/-- What bytes hold is what is read from them. -/
theorem Holds.exists_decode (h : Holds bytes source) :
    ∃ t, Text.decodeUtf8 bytes = .ok t ∧ SourceText.ofText t = source := by
  obtain ⟨text, hasMark⟩ := source
  cases hasMark with
  | true =>
    refine ⟨byteOrderMark :: text, Text.decodeUtf8_eq_ok_iff.mpr ⟨?_, ?_⟩, rfl⟩
    · rw [encodeUtf8_mark]
      exact h.bytes_eq.symm
    · exact List.forall_mem_cons.mpr ⟨rfl, h.scalar⟩
  | false =>
    have hread : Text.decodeUtf8 bytes = .ok text :=
      Text.decodeUtf8_eq_ok_iff.mpr ⟨h.bytes_eq.symm, h.scalar⟩
    have hmark : ¬ markBytes <+: bytes := by
      rw [← h.hasMark_iff]
      exact Bool.false_ne_true
    refine ⟨text, hread, ?_⟩
    rw [SourceText.ofText, if_neg (mt (head?_eq_mark_iff hread).mp hmark)]

/-- Bytes hold one source text only. -/
theorem Holds.unique {other : SourceText} (h : Holds bytes source) (hother : Holds bytes other) :
    source = other := by
  obtain ⟨t, ht, rfl⟩ := h.exists_decode
  obtain ⟨u, hu, rfl⟩ := hother.exists_decode
  rw [Except.ok.inj (ht.symm.trans hu)]

/-- Bytes in UTF-8 are those that hold a source text. -/
theorem isUtf8_iff_exists_holds : IsUtf8 bytes ↔ ∃ source, Holds bytes source := by
  constructor
  · rintro ⟨t, ht⟩
    exact ⟨_, holds_ofText (Text.decodeUtf8_eq_ok_iff.mpr ht)⟩
  · rintro ⟨source, h⟩
    obtain ⟨t, ht, _⟩ := h.exists_decode
    exact ⟨t, Text.decodeUtf8_eq_ok_iff.mp ht⟩

/-- The bytes of a source text hold it unless its text starts with a mark that would be taken
off. -/
theorem holds_bytes (hscalar : ∀ c ∈ source.text, c.isSurrogate = false)
    (hhead : source.hasMark = false → source.text.head? ≠ some byteOrderMark) :
    Holds source.bytes source := by
  refine ⟨bytes_eq_markPart source, hscalar, ?_⟩
  obtain ⟨text, hasMark⟩ := source
  cases hasMark with
  | true =>
    refine iff_of_true rfl ?_
    rw [bytes_eq_markPart]
    exact List.prefix_append _ _
  | false =>
    have hread : Text.decodeUtf8 (SourceText.bytes ⟨text, false⟩) = .ok text :=
      Text.decodeUtf8_eq_ok_iff.mpr ⟨rfl, hscalar⟩
    exact iff_of_false nofun (mt (head?_eq_mark_iff hread).mpr (hhead rfl))

/-- A text that bytes hold without a mark starts with none. -/
theorem Holds.head?_ne (h : Holds bytes source) (hmark : source.hasMark = false) :
    source.text.head? ≠ some byteOrderMark := by
  obtain ⟨t, ht, rfl⟩ := h.exists_decode
  unfold SourceText.ofText at hmark ⊢
  split at hmark
  · cases hmark
  · next hhead =>
    rw [if_neg hhead]
    exact hhead

section Mended

variable {mended : Text} {config : Config} {file : Option Text} {count : Nat}

/-- The bytes written for a mended text hold it, behind the mark of the text. -/
theorem Holds.of_applyFixes (h : Holds bytes source)
    (hfix : (Source.applyFixes source.text config file).result = .ok (mended, count)) :
    Holds ({ source with text := mended } : SourceText).bytes { source with text := mended } := by
  have hperm := Source.perm_of_applyFixes hfix
  refine holds_bytes (fun c hc => h.scalar c (hperm.mem_iff.mp hc)) fun hmark => ?_
  rw [Source.head?_of_applyFixes hfix]
  exact h.head?_ne hmark

/-- A text of which nothing is changed keeps its bytes. -/
theorem Holds.bytes_eq_of_zero (h : Holds bytes source)
    (hfix : (Source.applyFixes source.text config file).result = .ok (mended, 0)) :
    ({ source with text := mended } : SourceText).bytes = bytes := by
  rw [Source.eq_of_applyFixes_zero hfix, bytes_eq_markPart, h.bytes_eq]

end Mended

/-- Reading a file finds the source text that its bytes hold. -/
theorem readSource_eq_ok_iff {tree : FileTree} {file : Selected}
    (hfile : tree.file? file.location = some bytes) :
    readSource tree file = .ok source ↔ Holds bytes source := by
  rw [readSource, hfile, Option.getD_some]
  cases hread : Text.decodeUtf8 bytes with
  | error error =>
    refine iff_of_false nofun fun h => ?_
    obtain ⟨t, ht, _⟩ := h.exists_decode
    cases hread.symm.trans ht
  | ok t =>
    constructor
    · intro h
      cases h
      exact holds_ofText hread
    · intro h
      exact congrArg Except.ok ((holds_ofText hread).unique h)

/-- Reading a file fails exactly when its bytes are not UTF-8. -/
theorem exists_readSource_error_iff {tree : FileTree} {file : Selected}
    (hfile : tree.file? file.location = some bytes) :
    (∃ failure, readSource tree file = .error failure) ↔ ¬ IsUtf8 bytes := by
  rw [isUtf8_iff_exists_holds]
  simp only [← readSource_eq_ok_iff hfile]
  cases readSource tree file with
  | error failure => exact iff_of_true ⟨failure, rfl⟩ nofun
  | ok source => exact iff_of_false nofun fun h => h ⟨source, rfl⟩

end TemplateLint.Command
