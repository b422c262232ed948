import ApiReference.Proofs.Files.Tree

/-! A file is replaced by way of a new one, which takes its place or goes away again. -/

namespace ApiReference.FileTree

lemma fileAt_eq_ok {tree : FileTree} {path : String} {place : Place} {content : Content} :
    tree.fileAt path = .ok (place, content) ↔
      tree.resolve path = .ok place ∧ tree.standing? place = some (.file content) := by
  rw [fileAt]
  constructor
  · intro h
    obtain ⟨place', hr, h⟩ := bind_eq_ok h
    cases hs : tree.standing? place' with
    | none =>
      rw [hs] at h
      cases h
    | some entry =>
      rw [hs] at h
      cases entry with
      | directory => cases h
      | file content' =>
        cases h
        exact ⟨hr, hs⟩
  · rintro ⟨hr, hs⟩
    rw [hr, ok_bind, hs]
    rfl

lemma moveFile_ok {tree tree' : FileTree} {source target : String} (h : tree.moveFile source target = .ok tree') :
    ∃ origin content place name, tree.fileAt source = .ok (origin, content) ∧ tree.Writable target place name ∧
      tree' = (tree.erase origin).set (place ++ [name]) (.file content) := by
  rw [moveFile] at h
  obtain ⟨⟨origin, content⟩, hs, h⟩ := bind_eq_ok h
  obtain ⟨⟨place, name⟩, hr, h⟩ := bind_eq_ok h
  cases name with
  | none => cases h
  | some name =>
    obtain ⟨⟨⟩, hc, h⟩ := bind_eq_ok h
    cases he : Text.endsWith target "/" with
    | true =>
      simp only [he, if_true] at h
      cases h
    | false =>
      by_cases hd : tree.standing? (place ++ [name]) = some .directory
      · simp only [he, hd, if_true] at h
        cases h
      · simp only [he, hd, if_false] at h
        cases h
        exact ⟨origin, content, place, name, hs, ⟨hr, hc, he, hd⟩, rfl⟩

structure Beside (before tree : FileTree) (path : String) (place : Place) (name : String) (content : Content) : Prop where
  writable : tree.Writable path place name
  fresh : before.files (place ++ [name]) = none
  files : tree.files = Function.update before.files (place ++ [name]) (some content)

lemma beside_createFile {tree tree' : FileTree} {path : String} (h : tree.createFile path = .ok tree') :
    ∃ place name, Beside tree tree' path place name (.text "") := by
  rw [createFile] at h
  cases he : Text.endsWith path "/" with
  | true =>
    rw [he] at h
    cases h
  | false =>
    rw [he] at h
    obtain ⟨place, name, hr, hc, hn, rfl⟩ := create_ok h
    have hw : tree.Writable path place name := ⟨hr, hc, he, by simp [hn]⟩
    have hfresh : tree.files (place ++ [name]) = none := by rw [files, hn]
    exact ⟨place, name, hw.set _, hfresh, files_set_file tree (by simp) _⟩

namespace Beside

variable {before tree : FileTree} {path name : String} {place : Place} {content : Content}
  (h : Beside before tree path place name content)
include h

lemma standing : tree.standing? (place ++ [name]) = some (.file content) := by
  rw [← files_eq_some, h.files, Function.update_self]

lemma fileAt : tree.fileAt path = .ok (place ++ [name], content) := by
  rw [fileAt_eq_ok]
  exact ⟨h.writable.resolve (by simp [h.standing]), h.standing⟩

lemma write {tree' : FileTree} {later : Content} (hw : tree.write path later = .ok tree') :
    Beside before tree' path place name later := by
  rw [h.writable.write later] at hw
  cases hw
  refine ⟨h.writable.set later, h.fresh, ?_⟩
  rw [files_set_file tree (by simp), h.files, Function.update_idem]

lemma files_erase : (tree.erase (place ++ [name])).files = before.files := by
  rw [FileTree.files_erase tree (by simp), h.files, Function.update_idem, ← h.fresh, Function.update_eq_self]

lemma removeFile : tree.removeFile path = .ok (tree.erase (place ++ [name])) := by
  rw [FileTree.removeFile, h.fileAt]
  rfl

lemma moveFile {after : FileTree} {target : String} (hm : tree.moveFile path target = .ok after) :
    ∃ q, after.resolve target = .ok q ∧ after.files = Function.update before.files q (some content) := by
  obtain ⟨origin, moved, q, last, hs, hw, rfl⟩ := moveFile_ok hm
  rw [h.fileAt] at hs
  cases hs
  have hne : place ++ [name] ≠ [] := by simp
  have hgone : (tree.erase (place ++ [name])).Writable target q last := by
    apply hw.mono (.erase hne h.writable.free)
    rw [standing?_erase tree hne]
    split
    · simp
    · exact hw.free
  exact ⟨q ++ [last], hgone.resolve_set content, by rw [files_set_file _ (by simp), h.files_erase]⟩

end Beside

end ApiReference.FileTree
