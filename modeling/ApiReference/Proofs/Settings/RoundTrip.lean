import ApiReference.Proofs.Files.Growth
import ApiReference.Proofs.Settings.Load
import ApiReference.Proofs.Settings.Written

/-! Saved settings are loaded as they were, unless the environment says otherwise. -/

namespace ApiReference

namespace FileTree

section

variable {tree : FileTree} {path text : String} {place : Place} (hr : tree.resolve path = .ok place)
  (hf : tree.standing? place = some (.file (.text text)))
include hr hf

lemma isFile_of_resolve : tree.isFile path = true := by
  rw [isFile, entryAt?, hr]
  dsimp only
  rw [hf]

lemma readText_of_resolve : tree.readText path = .ok text := by
  rw [readText, fileAt_eq_ok.mpr ⟨hr, hf⟩]
  rfl

end

/-- A path that settings can be saved at: the directories above it can be made and it can be written to. A relative
path is looked for behind the path of the working directory, which has to lead there and may not make it too long. -/
structure Saveable (tree : FileTree) (path : String) : Prop where
  writable : ∃ parent made place name, Path.parent? path = some parent ∧
    (treeHost.createAll parent).run tree = (.ok (), made) ∧ made.Writable path place name
  found : Path.isAbsolute path = false → tree.resolve tree.here = .ok tree.workingDirectory ∧
    (Path.join tree.here path).utf8ByteSize < pathLimit

end FileTree

namespace Settings

open FileTree

lemma run_save (s : Settings) {tree made : FileTree} {path parent name : String} {place : Place}
    (hp : Path.parent? path = some parent) (hc : (treeHost.createAll parent).run tree = (.ok (), made))
    (hw : made.Writable path place name) :
    (save treeHost s path).run tree = (.ok (), made.set (place ++ [name]) (.file (.text s.text))) := by
  have hwrite : (treeHost.writeText path s.text).run made =
      (.ok (), made.set (place ++ [name]) (.file (.text s.text))) :=
    FileTree.run_update (hw.write (.text s.text))
  rw [save, hp]
  change ((treeHost.createAll parent >>= _).run tree) = _
  rw [StateT.run_bind, hc]
  change ((treeHost.writeText path s.text >>= _).run made) = _
  rw [StateT.run_bind, hwrite]
  rfl

theorem loadFrom_save {s : Settings} (hs : s.Sound) {environment : List (String × String)}
    (he : ∀ v ∈ environment, Environment.pathOf v.1 = none) {tree : FileTree} {path : String}
    (hp : tree.Saveable path) :
    ∃ tree', (save treeHost s path).run tree = (.ok (), tree') ∧
      (loadFrom treeHost environment path).run tree' = (.ok s, tree') := by
  obtain ⟨parent, made, place, name, hparent, hmade, hw⟩ := hp.writable
  have hne : place ++ [name] ≠ [] := by simp
  have hgrown : tree.Extends made := by
    have hg := grows_createDirectories (parent.length + 1) parent tree
    rw [← Host.createAll, hmade] at hg
    exact hg
  -- the tree with the file in it
  obtain ⟨tree', htree⟩ : ∃ tree', tree' = made.set (place ++ [name]) (.file (.text s.text)) := ⟨_, rfl⟩
  have hextends : tree.Extends tree' := htree ▸ hgrown.trans (Extends.set hne fun hd => absurd hd hw.free)
  have hresolve : tree'.resolve path = .ok (place ++ [name]) := htree ▸ hw.resolve_set _
  have hstanding : tree'.standing? (place ++ [name]) = some (.file (.text s.text)) := by
    rw [htree, standing?_set made hne, if_pos rfl]
  have hhere : tree'.here = tree.here := by rw [here, here, hextends.workingDirectory]
  have hfound : ∃ file, (findFile treeHost path).run tree' = (some file, tree') ∧ tree'.readText file = .ok s.text := by
    cases ha : Path.isAbsolute path with
    | true =>
      exact ⟨path, run_findFile_absolute ha (isFile_of_resolve hresolve hstanding),
        readText_of_resolve hresolve hstanding⟩
    | false =>
      obtain ⟨hcwd, hsize⟩ := hp.found ha
      have hcwd' := hextends.resolve hcwd
      rw [← hextends.workingDirectory, ← hhere] at hcwd'
      rw [← hhere] at hsize
      have hjoin := resolve_join tree'.isAbsolute_here hcwd' ha hresolve hsize
      exact ⟨Path.join tree'.here path, run_findFile_relative ha (isFile_of_resolve hjoin hstanding),
        readText_of_resolve hjoin hstanding⟩
  obtain ⟨file, hfile, htext⟩ := hfound
  refine ⟨tree', htree ▸ run_save s hparent hmade hw, ?_⟩
  have hlayer := FileLayer.found hfile htext hs.ofText
  rw [hlayer.run_loadFrom, environmentEntries_eq_nil he, Layered.mergeEntries]
  change (Settings.ofEntries (Layered.ofTable _ s.tables), tree') = _
  rw [(hs.legible _).decoded, hs.reading]

def freshTree : FileTree where
  entries := [(["work"], .directory)]
  workingDirectory := ["work"]

lemma freshTree_saveable : freshTree.Saveable "conf/settings.toml" where
  writable := by
    refine ⟨"conf", freshTree.set ["work", "conf"] .directory, ["work", "conf"], "settings.toml", by decide +kernel,
      rfl, rfl, rfl, by decide +kernel, by decide +kernel⟩
  found _ := ⟨rfl, by decide +kernel⟩

def quotedSettings : Settings where
  version := 4294967295
  moduleName := "It's \"C:\\x\"\x00"
  inputs := { primary := ["a\nb", ""], graphDir := some "'''" }
  render := { intro := some "two\r\nlines" }
  logging := { default := "", modules := [("a \"b\"", "debug")] }

theorem loadFrom_save_quoted :
    ∃ tree', (save treeHost quotedSettings "conf/settings.toml").run freshTree = (.ok (), tree') ∧
      (loadFrom treeHost [("HOME", "/root")] "conf/settings.toml").run tree' = (.ok quotedSettings, tree') := by
  have hsound : quotedSettings.Sound := ⟨by decide, List.pairwise_singleton _ _⟩
  exact loadFrom_save hsound (by decide +kernel) freshTree_saveable

end Settings

end ApiReference
