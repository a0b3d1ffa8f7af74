import TemplateLint.Proofs.Command.Content
import TemplateLint.Proofs.Command.FileTree

/-!
# Files that are visited and rewritten

A run that fixes files visits them one after the other, a file as often as it is selected. One
visit replaces the bytes of its file by those of the mended text and leaves every other file
alone. Visits compose: what several of them make of a file is what mending its text once for
each of them makes of it, because a file that was rewritten holds its text behind the same
mark as before.
-/

namespace TemplateLint.Command

/-- A text is mended once for each path under which it is visited; the count is that of all
calls changed. -/
inductive Mends (config : Config) : List Text → Text → Text → Nat → Prop
  /-- There are no more visits. -/
  | nil {text : Text} : Mends config [] text text 0
  /-- The first visit mends the text for the others. -/
  | cons {path : Text} {paths : List Text} {text mended last : Text} {count more : Nat}
      (hfix : (Source.applyFixes text config (some path)).result = .ok (mended, count))
      (hlater : Mends config paths mended last more) :
    Mends config (path :: paths) text last (count + more)

namespace Mends

variable {config : Config} {paths later : List Text} {text mended last : Text} {count more : Nat}

/-- Further visits mend the text that the earlier ones left. -/
theorem append (h : Mends config paths text mended count)
    (hlater : Mends config later mended last more) :
    Mends config (paths ++ later) text last (count + more) := by
  induction h with
  | nil =>
    rw [List.nil_append, Nat.zero_add]
    exact hlater
  | cons hfix _ ih =>
    rw [List.cons_append, Nat.add_assoc]
    exact .cons hfix (ih hlater)

/-- Mending permutes the text. -/
theorem perm (h : Mends config paths text mended count) : mended.Perm text := by
  induction h with
  | nil => exact List.Perm.refl _
  | cons hfix _ ih => exact ih.trans (Source.perm_of_applyFixes hfix)

end Mends

/-- What visits under some paths make of the bytes of a file. -/
structure Rewritten (config : Config) (paths : List Text) (old new : List UInt8) : Prop where
  /-- The new bytes are the mark of the old ones and the mended text, and the old ones if
  nothing is mended. -/
  exists_mends : ∃ source mended count, Holds old source ∧
    Mends config paths source.text mended count ∧
    new = markPart source.hasMark ++ Text.encodeUtf8 mended ∧ (count = 0 → new = old)
  /-- There is a mark exactly when there was one. -/
  mark_iff : markBytes <+: new ↔ markBytes <+: old
  /-- There are as many bytes as before. -/
  length_eq : new.length = old.length

namespace Rewritten

variable {config : Config} {paths later : List Text} {old new last : List UInt8}

/-- One visit. -/
theorem of_applyFixes {source : SourceText} {path mended : Text} {count : Nat}
    (h : Holds old source)
    (hfix : (Source.applyFixes source.text config (some path)).result = .ok (mended, count)) :
    Rewritten config [path] old ({ source with text := mended } : SourceText).bytes := by
  have hnew := h.of_applyFixes hfix
  refine ⟨⟨source, mended, count, h, .cons hfix .nil, hnew.bytes_eq, ?_⟩, ?_, ?_⟩
  · rintro rfl
    exact h.bytes_eq_of_zero hfix
  · rw [← hnew.hasMark_iff, ← h.hasMark_iff]
  · have hlength := Text.length_encodeUtf8_of_perm (Source.perm_of_applyFixes hfix)
    rw [hnew.bytes_eq, h.bytes_eq, List.length_append, List.length_append, hlength]

/-- Rewritten bytes hold the mended text. -/
theorem holds {source : SourceText} {mended : Text} (hmark : markBytes <+: new ↔ markBytes <+: old)
    (h : Holds old source) (hperm : mended.Perm source.text)
    (hnew : new = markPart source.hasMark ++ Text.encodeUtf8 mended) :
    Holds new { source with text := mended } := by
  refine ⟨hnew, fun c hc => h.scalar c (hperm.mem_iff.mp hc), ?_⟩
  rw [hmark]
  exact h.hasMark_iff

/-- Further visits go on with the bytes that the earlier ones left. -/
theorem trans (h : Rewritten config paths old new) (hlater : Rewritten config later new last) :
    Rewritten config (paths ++ later) old last := by
  obtain ⟨⟨source, mended, count, hold, hmends, hnew, hzero⟩, hmark, hlength⟩ := h
  obtain ⟨⟨next, mendedLast, more, hnext, hmendsLast, hlast, hzeroLast⟩, hmarkLast, hlengthLast⟩ :=
    hlater
  -- The bytes between the visits hold one source text only.
  have heq := (holds hmark hold hmends.perm hnew).unique hnext
  subst heq
  refine ⟨⟨source, mendedLast, count + more, hold, hmends.append hmendsLast, hlast, ?_⟩,
    hmarkLast.trans hmark, hlengthLast.trans hlength⟩
  intro hnone
  rw [hzeroLast (by omega), hzero (by omega)]

/-- Only UTF-8 is rewritten. -/
theorem isUtf8_old (h : Rewritten config paths old new) : IsUtf8 old := by
  obtain ⟨source, _, _, hold, _⟩ := h.exists_mends
  exact isUtf8_iff_exists_holds.mpr ⟨source, hold⟩

/-- What is written is UTF-8. -/
theorem isUtf8_new (h : Rewritten config paths old new) : IsUtf8 new := by
  obtain ⟨source, mended, _, hold, hmends, hnew, _⟩ := h.exists_mends
  exact isUtf8_iff_exists_holds.mpr ⟨_, holds h.mark_iff hold hmends.perm hnew⟩

end Rewritten

/-- The paths under which a file is visited. -/
def pathsTo (location : Location) (visited : List Selected) : List Text :=
  (visited.filter fun file => decide (file.location = location)).map Selected.path

/-- Paths of visits one after the other. -/
theorem pathsTo_append (location : Location) (visited later : List Selected) :
    pathsTo location (visited ++ later) = pathsTo location visited ++ pathsTo location later := by
  rw [pathsTo, List.filter_append, List.map_append]
  rfl

/-- A file is visited under some path exactly when it is among those visited. -/
theorem pathsTo_ne_nil_iff {location : Location} {visited : List Selected} :
    pathsTo location visited ≠ [] ↔ ∃ file ∈ visited, file.location = location := by
  simp [pathsTo]

/-- A file of a tree is UTF-8. -/
def IsUtf8At (tree : FileTree) (location : Location) : Prop :=
  ∃ bytes, tree.file? location = some bytes ∧ IsUtf8 bytes

/-- A tree after some of its files were visited one after the other. -/
structure MendedBy (config : Config) (visited : List Selected) (before after : FileTree) :
    Prop where
  /-- Relative paths start in the same folder. -/
  home_eq : after.home = before.home
  /-- The folders are the same. -/
  folders_eq : after.folders = before.folders
  /-- No file comes and none goes. -/
  locations_eq : after.files.map Prod.fst = before.files.map Prod.fst
  /-- Files that were not visited keep their bytes. -/
  untouched : ∀ location, pathsTo location visited = [] →
    after.file? location = before.file? location
  /-- Files that were visited are rewritten once for each visit. -/
  rewritten : ∀ location old, pathsTo location visited ≠ [] → before.file? location = some old →
    ∃ new, after.file? location = some new ∧ Rewritten config (pathsTo location visited) old new

namespace MendedBy

variable {config : Config} {visited later : List Selected} {before middle after : FileTree}

/-- No visit changes nothing. -/
theorem refl (tree : FileTree) : MendedBy config [] tree tree :=
  ⟨rfl, rfl, rfl, fun _ _ => rfl, fun _ _ hne => absurd rfl hne⟩

/-- Visits compose. -/
theorem trans (h : MendedBy config visited before middle)
    (hlater : MendedBy config later middle after) :
    MendedBy config (visited ++ later) before after := by
  refine ⟨hlater.home_eq.trans h.home_eq, hlater.folders_eq.trans h.folders_eq,
    hlater.locations_eq.trans h.locations_eq, fun location hnone => ?_,
    fun location old hsome hold => ?_⟩
  · rw [pathsTo_append, List.append_eq_nil_iff] at hnone
    rw [hlater.untouched location hnone.2, h.untouched location hnone.1]
  · rw [pathsTo_append] at hsome ⊢
    by_cases hfirst : pathsTo location visited = []
    · rw [hfirst, List.nil_append] at hsome ⊢
      exact hlater.rewritten location old hsome ((h.untouched location hfirst).trans hold)
    · obtain ⟨new, hnew, hmiddle⟩ := h.rewritten location old hfirst hold
      by_cases hsecond : pathsTo location later = []
      · rw [hsecond, List.append_nil]
        exact ⟨new, (hlater.untouched location hsecond).trans hnew, hmiddle⟩
      · obtain ⟨last, hlast, hrewritten⟩ := hlater.rewritten location new hsecond hnew
        exact ⟨last, hlast, hmiddle.trans hrewritten⟩

/-- One visit, known by what it leaves. -/
theorem of_visit {file : Selected} {old new : List UInt8} (hhome : after.home = before.home)
    (hfolders : after.folders = before.folders)
    (hlocations : after.files.map Prod.fst = before.files.map Prod.fst)
    (hothers : ∀ location, location ≠ file.location →
      after.file? location = before.file? location)
    (hold : before.file? file.location = some old) (hnew : after.file? file.location = some new)
    (h : Rewritten config [file.path] old new) : MendedBy config [file] before after := by
  have hpaths : pathsTo file.location [file] = [file.path] := by simp [pathsTo]
  refine ⟨hhome, hfolders, hlocations, fun location hnone => ?_,
    fun location bytes hsome hbytes => ?_⟩
  · refine hothers location ?_
    rintro rfl
    rw [hpaths] at hnone
    cases hnone
  · obtain ⟨visit, hvisit, rfl⟩ := pathsTo_ne_nil_iff.mp hsome
    cases List.mem_singleton.mp hvisit
    cases hold.symm.trans hbytes
    rw [hpaths]
    exact ⟨new, hnew, h⟩

/-- The files are those that were there before. -/
theorem exists_file?_iff (h : MendedBy config visited before after) {location : Location} :
    (∃ bytes, after.file? location = some bytes) ↔
      ∃ bytes, before.file? location = some bytes := by
  rw [FileTree.exists_file?_iff, FileTree.exists_file?_iff, h.locations_eq]

/-- Visits keep which files are UTF-8. -/
theorem isUtf8At_iff (h : MendedBy config visited before after) {location : Location} :
    IsUtf8At after location ↔ IsUtf8At before location := by
  by_cases hpaths : pathsTo location visited = []
  · rw [IsUtf8At, IsUtf8At, h.untouched location hpaths]
  · cases hold : before.file? location with
    | none =>
      have hgone : ¬ ∃ bytes, after.file? location = some bytes := by
        rw [h.exists_file?_iff, hold]
        exact nofun
      refine iff_of_false (fun ⟨bytes, hbytes, _⟩ => hgone ⟨bytes, hbytes⟩) ?_
      rintro ⟨bytes, hbytes, _⟩
      cases hold.symm.trans hbytes
    | some old =>
      obtain ⟨new, hnew, hrewritten⟩ := h.rewritten location old hpaths hold
      exact iff_of_true ⟨new, hnew, hrewritten.isUtf8_new⟩ ⟨old, hold, hrewritten.isUtf8_old⟩

end MendedBy

end TemplateLint.Command
