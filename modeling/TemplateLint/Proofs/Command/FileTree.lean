import Mathlib.Data.List.Basic
import TemplateLint.Command.FileTree

/-!
# Looking up and overwriting files

The files of a tree are found by their locations. A path that leads to a file leads to one of
them, the source files below a folder are among them, and overwriting a file changes what is
found at its location and nowhere else.
-/

namespace TemplateLint.Command.FileTree

variable {tree : FileTree}

/-- The files that have bytes are those of the list. -/
theorem exists_file?_iff {location : Location} :
    (∃ bytes, tree.file? location = some bytes) ↔ location ∈ tree.files.map Prod.fst := by
  rw [← Option.isSome_iff_exists, file?, Option.isSome_map, List.find?_isSome]
  simp only [decide_eq_true_eq, List.mem_map]

/-- A file at the end of some names has its bytes in the tree. -/
theorem file?_of_follow {folder location : Location} {names : List Text} {bytes : List UInt8}
    (h : tree.follow folder names = .ok (.file location bytes)) :
    tree.file? location = some bytes := by
  induction names generalizing folder with
  | nil =>
    rw [follow] at h
    cases h
  | cons name names ih =>
    rw [follow] at h
    split at h
    · exact ih h
    split at h
    · cases h
    dsimp only at h
    split at h
    · next found hfound =>
      split at h
      · cases h
        exact hfound
      · cases h
    · split at h
      · exact ih h
      · cases h

/-- A file at the end of a path has its bytes in the tree. -/
theorem file?_of_resolve {path : Path} {location : Location} {bytes : List UInt8}
    (h : tree.resolve path = .ok (.file location bytes)) : tree.file? location = some bytes := by
  rw [resolve] at h
  split at h
  · cases h
  · exact file?_of_follow h

/-- Names lead from a folder to a source file exactly when there is one at their end. -/
theorem mem_sourcesUnder_iff {folder : Location} {names : List Text} :
    names ∈ tree.sourcesUnder folder ↔
      names ≠ [] ∧ isSource (folder ++ names) = true ∧
        ∃ bytes, tree.file? (folder ++ names) = some bytes := by
  simp only [sourcesUnder, List.mem_mergeSort, List.mem_map, List.mem_filter, Bool.and_eq_true,
    List.isPrefixOf_iff_prefix, decide_eq_true_eq, exists_file?_iff]
  constructor
  · rintro ⟨⟨location, bytes⟩, ⟨hmem, ⟨⟨rest, rfl⟩, hne⟩, hsource⟩, rfl⟩
    simp only [List.drop_left]
    refine ⟨?_, hsource, _, hmem, rfl⟩
    rintro rfl
    exact hne (List.append_nil folder).symm
  · rintro ⟨hnames, hsource, entry, hmem, hentry⟩
    refine ⟨entry, ⟨hmem, ⟨?_, ?_⟩, ?_⟩, ?_⟩
    · rw [hentry]
      exact List.prefix_append _ _
    · rw [hentry]
      exact fun heq => hnames (List.self_eq_append_right.mp heq)
    · rw [hentry]
      exact hsource
    · rw [hentry, List.drop_left]

/-- Overwriting a file changes the bytes of this file only. -/
theorem file?_write (tree : FileTree) (location other : Location) (bytes : List UInt8) :
    (tree.write location bytes).file? other =
      if other = location then (tree.file? location).map fun _ => bytes else tree.file? other := by
  have hsame : ∀ entry : Location × List UInt8,
      (if entry.1 = location then (location, bytes) else entry).1 = entry.1 := by
    intro entry
    split
    · next heq => exact heq.symm
    · rfl
  simp only [file?, write, List.find?_map, Function.comp_def, hsame, Option.map_map]
  cases hfind : tree.files.find? fun entry => decide (entry.1 = other) with
  | none =>
    split
    · next heq => simp [← heq, hfind]
    · rfl
  | some entry =>
    have hentry : entry.1 = other := by simpa using List.find?_some hfind
    split
    · next heq => simp [← heq, hfind, hentry]
    · next hne => simp [hentry, hne]

/-- Overwriting a file keeps the locations of all files. -/
theorem locations_write (tree : FileTree) (location : Location) (bytes : List UInt8) :
    (tree.write location bytes).files.map Prod.fst = tree.files.map Prod.fst := by
  rw [write, List.map_map]
  refine List.map_congr_left fun entry _ => ?_
  simp only [Function.comp_apply]
  split
  · next heq => exact heq.symm
  · rfl

end TemplateLint.Command.FileTree
