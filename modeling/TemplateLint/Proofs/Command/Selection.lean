import Mathlib.Data.List.Basic
import TemplateLint.Command.Run
import TemplateLint.Proofs.Basic
import TemplateLint.Proofs.Command.FileTree

/-!
# Selected files

A path that leads to a file selects it, and a path that leads to a folder selects the source
files below it. The paths of a command line select files exactly when all of them lead
somewhere: a path that leads nowhere refuses the whole selection, wherever it stands.
-/

namespace TemplateLint.Command

open Outcome

variable {tree : FileTree}

/-- A path selects a file. -/
inductive Selects (tree : FileTree) (path : Path) (location : Location) : Prop
  /-- The path leads to the file. -/
  | file {bytes : List UInt8} (h : tree.resolve path = .ok (.file location bytes))
  /-- The path leads to a folder above the file, which is a source file. -/
  | below {folder : Location} {bytes : List UInt8} (h : tree.resolve path = .ok (.folder folder))
      (habove : folder <+: location) (hne : folder ≠ location)
      (hsource : FileTree.isSource location = true) (hfile : tree.file? location = some bytes)

/-- A selected file is there. -/
theorem Selects.exists_file? {path : Path} {location : Location}
    (h : Selects tree path location) : ∃ bytes, tree.file? location = some bytes := by
  cases h with
  | file h => exact ⟨_, FileTree.file?_of_resolve h⟩
  | below _ _ _ _ hfile => exact ⟨_, hfile⟩

/-- A path selects files exactly when it leads somewhere. -/
theorem exists_selectPath_ok_iff {path : Text} :
    (∃ files, selectPath tree path = .ok files) ↔
      ∃ target, tree.resolve (Path.ofText path) = .ok target := by
  unfold selectPath
  dsimp only
  cases tree.resolve (Path.ofText path) with
  | ok target => cases target <;> exact iff_of_true ⟨_, rfl⟩ ⟨_, rfl⟩
  | error error => cases error <;> exact iff_of_false nofun nofun

/-- The files that a path selects lie where it selects them. -/
theorem exists_mem_selectPath_iff {path : Text} {files : List Selected}
    (h : selectPath tree path = .ok files) {location : Location} :
    (∃ file ∈ files, file.location = location) ↔ Selects tree (Path.ofText path) location := by
  obtain ⟨target, htarget⟩ := exists_selectPath_ok_iff.mp ⟨files, h⟩
  unfold selectPath at h
  simp only [htarget] at h
  cases target with
  | file place bytes =>
    cases h
    constructor
    · rintro ⟨file, hfile, rfl⟩
      cases List.mem_singleton.mp hfile
      exact .file htarget
    · intro hselects
      cases hselects with
      | file h =>
        cases htarget.symm.trans h
        exact ⟨_, List.mem_cons_self, rfl⟩
      | below h => cases htarget.symm.trans h
  | folder folder =>
    cases h
    constructor
    · rintro ⟨file, hfile, rfl⟩
      obtain ⟨names, hnames, rfl⟩ := List.mem_map.mp hfile
      obtain ⟨hne, hsource, bytes, hbytes⟩ := FileTree.mem_sourcesUnder_iff.mp hnames
      have hproper : folder ≠ folder ++ names := fun heq => hne (List.self_eq_append_right.mp heq)
      exact .below htarget (List.prefix_append _ _) hproper hsource hbytes
    · intro hselects
      cases hselects with
      | file h => cases htarget.symm.trans h
      | @below other bytes h habove hne hsource hfile =>
        cases htarget.symm.trans h
        obtain ⟨names, rfl⟩ := habove
        have hnames : names ≠ [] := by
          rintro rfl
          exact hne (List.append_nil folder).symm
        have hmem : names ∈ tree.sourcesUnder folder :=
          FileTree.mem_sourcesUnder_iff.mpr ⟨hnames, hsource, bytes, hfile⟩
        exact ⟨_, List.mem_map_of_mem hmem, rfl⟩

/-- Paths select files exactly when all of them lead somewhere. -/
theorem exists_select_ok_iff {paths : List Text} :
    (∃ files, select tree paths = .ok files) ↔
      ∀ path ∈ paths, ∃ target, tree.resolve (Path.ofText path) = .ok target := by
  rw [select, exists_map_ok, exists_mapM_ok_iff]
  simp only [exists_selectPath_ok_iff]

/-- A selection fails at a path that leads nowhere, and reports it unless it is too long. -/
theorem exists_of_select_error {paths : List Text} {halt : Halt}
    (h : select tree paths = .error halt) :
    (∃ failure, halt = .failure failure) ∨
      ∃ path ∈ paths, halt = .crash (.access .tooLong (Path.ofText path).text) := by
  have hgroups : paths.mapM (selectPath tree) = .error halt := by
    rw [select] at h
    cases hall : paths.mapM (selectPath tree) with
    | ok groups =>
      rw [hall] at h
      cases h
    | error other =>
      rw [hall] at h
      cases h
      rfl
  obtain ⟨path, hpath, hfailed⟩ := exists_of_mapM_error hgroups
  unfold selectPath at hfailed
  dsimp only at hfailed
  split at hfailed
  · cases hfailed
  · cases hfailed
  · cases hfailed
    exact .inr ⟨path, hpath, rfl⟩
  · cases hfailed
    exact .inl ⟨_, rfl⟩

/-- The files that paths select lie where one of the paths selects them. -/
theorem exists_mem_select_iff {paths : List Text} {files : List Selected}
    (h : select tree paths = .ok files) {location : Location} :
    (∃ file ∈ files, file.location = location) ↔
      ∃ path ∈ paths, Selects tree (Path.ofText path) location := by
  obtain ⟨groups, hgroups, rfl⟩ := map_eq_ok h
  have hmap := mapM_eq_ok_iff.mp hgroups
  constructor
  · rintro ⟨file, hfile, rfl⟩
    obtain ⟨group, hgroup, hmem⟩ := List.mem_flatten.mp hfile
    obtain ⟨path, hpath, hselected⟩ := exists_of_mem_mapM hgroups hgroup
    exact ⟨path, hpath, (exists_mem_selectPath_iff hselected).mp ⟨file, hmem, rfl⟩⟩
  · rintro ⟨path, hpath, hselects⟩
    have hgroup : selectPath tree path ∈ groups.map Except.ok := by
      rw [← hmap]
      exact List.mem_map_of_mem hpath
    obtain ⟨group, hmem, hselected⟩ := List.mem_map.mp hgroup
    obtain ⟨file, hfile, hlocation⟩ := (exists_mem_selectPath_iff hselected.symm).mpr hselects
    exact ⟨file, List.mem_flatten.mpr ⟨group, hmem, hfile⟩, hlocation⟩

end TemplateLint.Command
