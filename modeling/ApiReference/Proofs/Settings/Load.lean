import ApiReference.Proofs.Files.Host
import ApiReference.Proofs.Settings.Layers

/-! What settings are loaded from: the file that a path leads to, if there is one, and the environment. -/

namespace ApiReference

namespace FileTree

lemma isAbsolute_here (tree : FileTree) : Path.isAbsolute tree.here = true := by
  rw [here, Path.isAbsolute, Text.startsWith, String.toList_append]
  rfl

end FileTree

namespace Settings

section

variable {tree : FileTree}

lemma run_firstFile {path : String} (hf : tree.isFile path = true) (paths : List String) :
    (firstFile treeHost (path :: paths)).run tree = (some path, tree) := by
  rw [firstFile]
  change (if tree.isFile path = true then _ else _ : StateM FileTree (Option String)).run tree = _
  rw [if_pos hf]
  rfl

lemma run_findFile_absolute {path : String} (ha : Path.isAbsolute path = true) (hf : tree.isFile path = true) :
    (findFile treeHost path).run tree = (some path, tree) := by
  rw [findFile, if_pos ha]
  exact run_firstFile hf []

lemma exists_selfAndParents (path : String) : ∃ above, Path.selfAndParents path = path :: above := by
  rw [Path.selfAndParents]
  cases path.length with
  | zero => exact ⟨[], rfl⟩
  | succ steps =>
    rw [Path.ancestors]
    split
    · exact ⟨[], rfl⟩
    · exact ⟨_, rfl⟩

lemma run_findFile_relative {path : String} (hr : Path.isAbsolute path = false)
    (hf : tree.isFile (Path.join tree.here path) = true) :
    (findFile treeHost path).run tree = (some (Path.join tree.here path), tree) := by
  obtain ⟨above, ha⟩ := exists_selfAndParents tree.here
  rw [findFile, if_neg (by simp [hr])]
  change (firstFile treeHost ((Path.selfAndParents tree.here).map (Path.join · path))).run tree = _
  rw [ha, List.map_cons]
  exact run_firstFile hf _

inductive FileLayer (tree : FileTree) (path : String) : Layered.Table → Prop
  | absent : (findFile treeHost path).run tree = (none, tree) → FileLayer tree path []
  | found {file text : String} {entries : List (String × ConfigValue)} :
    (findFile treeHost path).run tree = (some file, tree) → tree.readText file = .ok text →
      Toml.ofText text = some entries →
        FileLayer tree path (Layered.ofEntries (.file (Path.shownFrom tree.here file)) entries)

theorem FileLayer.run_loadFrom {path : String} {entries : Layered.Table} (h : FileLayer tree path entries)
    (environment : List (String × String)) :
    (loadFrom treeHost environment path).run tree =
      (Settings.ofEntries (Layered.mergeEntries entries (environmentEntries environment)), tree) := by
  have hcwd : treeHost.workingDirectory.run tree = (tree.here, tree) := rfl
  rw [loadFrom, StateT.run_bind, hcwd]
  change (findFile treeHost path >>= _).run tree = _
  cases h with
  | absent hf =>
    rw [StateT.run_bind, hf]
    rfl
  | @found file text entries hf ht he =>
    have hentries : fileEntries (Path.shownFrom tree.here file) (tree.readText file) =
        .ok (Layered.ofEntries (.file (Path.shownFrom tree.here file)) entries) := by
      rw [ht, fileEntries, he]
    rw [StateT.run_bind, hf]
    change (fileEntries (Path.shownFrom tree.here file) (tree.readText file) >>= _, tree) = _
    rw [hentries]
    rfl

end

end Settings

end ApiReference
