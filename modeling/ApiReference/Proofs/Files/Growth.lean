import ApiReference.Proofs.Files.Host
import ApiReference.Proofs.Text.Blank

/-! Trees that only grow: a path that leads somewhere leads there still after directories were made and files
were written. A relative path leads where it leads behind the path of the working directory. -/

namespace ApiReference

namespace FileTree

structure Extends (tree tree' : FileTree) : Prop extends tree.KeepsDirectories tree' where
  present {place : Place} : tree.standing? place ≠ none → tree'.standing? place ≠ none

namespace Extends

lemma refl (tree : FileTree) : tree.Extends tree := ⟨⟨rfl, id⟩, id⟩

lemma trans {tree tree₁ tree₂ : FileTree} (h : tree.Extends tree₁) (h' : tree₁.Extends tree₂) : tree.Extends tree₂ where
  workingDirectory := h'.workingDirectory.trans h.workingDirectory
  directory hd := h'.directory (h.directory hd)
  present hp := h'.present (h.present hp)

lemma set {tree : FileTree} {place : Place} {entry : FileEntry} (hp : place ≠ [])
    (h : tree.standing? place = some .directory → entry = .directory) : tree.Extends (tree.set place entry) where
  workingDirectory := rfl
  directory {q} hq := by
    rw [standing?_set tree hp]
    split
    · next he => rw [h (he ▸ hq)]
    · exact hq
  present {q} hq := by
    rw [standing?_set tree hp]
    split
    · exact Option.some_ne_none entry
    · exact hq

variable {tree tree' : FileTree} (h : tree.Extends tree')
include h

lemma step {place next : Place} {name : String} (hs : tree.step place name = .ok next) :
    tree'.step place name = .ok next := by
  rw [step_eq_ok] at hs ⊢
  obtain ⟨hd, hs⟩ := hs
  refine ⟨h.directory hd, ?_⟩
  rcases hs with hs | hs | ⟨ho, hc, hn, rfl⟩
  · exact Or.inl hs
  · exact Or.inr (Or.inl hs)
  · exact Or.inr (Or.inr ⟨ho, hc, h.present hn, rfl⟩)

lemma walk {names : List String} {place last : Place} (hw : names.foldlM tree.step place = .ok last) :
    names.foldlM tree'.step place = .ok last := by
  induction names generalizing place with
  | nil => exact hw
  | cons name names ih =>
    rw [List.foldlM_cons] at hw ⊢
    obtain ⟨next, hn, hw⟩ := bind_eq_ok hw
    rw [h.step hn]
    exact ih hw

end Extends

lemma Extends.resolve {tree tree' : FileTree} (h : tree.Extends tree') {path : String} {place : Place}
    (hr : tree.resolve path = .ok place) : tree'.resolve path = .ok place := by
  obtain ⟨hc, hw, hd⟩ := resolve_eq_ok.mp hr
  have hs : tree'.startOf path = tree.startOf path := by
    rw [startOf, startOf, h.workingDirectory]
  exact resolve_eq_ok.mpr ⟨hc, hs ▸ h.walk hw, fun he => h.directory (hd he)⟩

/-! ### Making directories -/

lemma extends_createDirectory {tree tree' : FileTree} {path : String} (h : tree.createDirectory path = .ok tree') :
    tree.Extends tree' := by
  obtain ⟨place, name, -, -, hn, rfl⟩ := create_ok h
  exact Extends.set (by simp) fun _ => rfl

end FileTree

open FileTree

section

variable {α β : Type}

def Grows (x : StateM FileTree α) : Prop := ∀ tree : FileTree, tree.Extends (x.run tree).2

lemma Grows.pure (a : α) : Grows (Pure.pure a) := Extends.refl

lemma Grows.bind {x : StateM FileTree α} {f : α → StateM FileTree β} (hx : Grows x) (hf : ∀ a, Grows (f a)) :
    Grows (x >>= f) :=
  fun tree => (hx tree).trans (hf _ _)

end

lemma grows_createDirectory (path : String) : Grows (treeHost.createDirectory path) := by
  intro tree
  rcases h : (treeHost.createDirectory path).run tree with ⟨made, tree'⟩
  cases made with
  | ok => exact extends_createDirectory (FileTree.update_ok h)
  | error fault => exact FileTree.update_error h ▸ Extends.refl tree

lemma grows_ensureDirectory (path : String) (fault : FileFault) : Grows (treeHost.ensureDirectory path fault) := by
  intro tree
  have hk : ((treeHost.ensureDirectory path fault).run tree).2 = tree := treeHost_over.ensureDirectory path fault tree
  rw [hk]
  exact Extends.refl tree

lemma grows_createDirectories (steps : ℕ) (path : String) : Grows (treeHost.createDirectories steps path) := by
  induction steps generalizing path with
  | zero => exact Grows.pure _
  | succ steps ih =>
    rw [Host.createDirectories]
    split
    · exact Grows.pure _
    · refine (grows_createDirectory path).bind fun made => ?_
      cases made with
      | ok => exact Grows.pure _
      | error fault =>
        cases fault with
        | notFound =>
          cases Path.parent? path with
          | none => exact Grows.pure _
          | some parent =>
            refine (ih parent).bind fun above => ?_
            cases above with
            | error fault => exact Grows.pure _
            | ok =>
              refine (grows_createDirectory path).bind fun made => ?_
              cases made with
              | ok => exact Grows.pure _
              | error fault => exact grows_ensureDirectory path fault
        | _ => exact grows_ensureDirectory path _

/-! ### Relative paths -/

namespace FileTree

lemma toList_slash (front path : String) : (front ++ "/" ++ path).toList = front.toList ++ '/' :: path.toList := by
  simp [String.toList_append]

lemma namesOf_slash (front path : String) : namesOf (front ++ "/" ++ path) = namesOf front ++ namesOf path := by
  rw [namesOf, namesOf, namesOf, Text.split, Text.split, Text.split, toList_slash, Text.splitChars_append,
    List.map_append, List.filter_append]

lemma exists_join {base path : String} (hb : base ≠ "") (hr : Path.isAbsolute path = false) :
    ∃ front, Path.join base path = front ++ "/" ++ path ∧ namesOf front = namesOf base ∧
      (∀ c ∈ front.toList, c ∈ base.toList) ∧ base.toList <+: (front ++ "/" ++ path).toList := by
  have hne : ¬ (Path.isAbsolute path || decide (base = "")) = true := by simp [hr, hb]
  rw [Path.join, if_neg hne]
  by_cases he : Text.endsWith base "/" = true
  · rw [if_pos he]
    have hsuffix : ['/'] <:+ base.toList := List.isSuffixOf_iff_suffix.mp he
    obtain ⟨cs, hcs⟩ := hsuffix
    obtain rfl : base = String.ofList cs ++ "/" := String.toList_inj.mp (by simp [← hcs])
    have hn := namesOf_slash (String.ofList cs) ""
    rw [String.append_empty] at hn
    refine ⟨String.ofList cs, rfl, ?_, ?_, ?_⟩
    · rw [hn]
      exact (List.append_nil _).symm
    · intro c hc
      rw [String.toList_append]
      exact List.mem_append_left _ hc
    · rw [String.toList_append (t := path)]
      exact List.prefix_append _ _
  · rw [if_neg he]
    refine ⟨base, rfl, rfl, fun _ => id, ?_⟩
    rw [toList_slash]
    exact List.prefix_append _ _

lemma namesOf_join {base path : String} (hb : base ≠ "") (hr : Path.isAbsolute path = false) :
    namesOf (Path.join base path) = namesOf base ++ namesOf path := by
  obtain ⟨front, hj, hn, -⟩ := exists_join hb hr
  rw [hj, namesOf_slash, hn]

lemma checkPath_eq_ok {path : String} :
    checkPath path = .ok () ↔ '\x00' ∉ path.toList ∧ path ≠ "" ∧ path.utf8ByteSize < pathLimit := by
  rw [checkPath]
  split_ifs with hz he hl
  · simp_all
  · simp [he]
  · simp [hl]
  · simp_all

theorem resolve_join {tree : FileTree} {base path : String} {place : Place} (ha : Path.isAbsolute base = true)
    (hb : tree.resolve base = .ok tree.workingDirectory) (hr : Path.isAbsolute path = false)
    (hp : tree.resolve path = .ok place) (hs : (Path.join base path).utf8ByteSize < pathLimit) :
    tree.resolve (Path.join base path) = .ok place := by
  obtain ⟨hbase, hwalk, -⟩ := resolve_eq_ok.mp hb
  obtain ⟨hpath, hwalk', hend⟩ := resolve_eq_ok.mp hp
  obtain ⟨hz, hne, -⟩ := checkPath_eq_ok.mp hbase
  obtain ⟨hz', hne', -⟩ := checkPath_eq_ok.mp hpath
  obtain ⟨front, hj, hn, hfront, hprefix⟩ := exists_join hne hr
  have habs : Path.isAbsolute (Path.join base path) = true := by
    have hroot : ['/'] <+: base.toList := List.isPrefixOf_iff_prefix.mp ha
    rw [hj]
    exact List.isPrefixOf_iff_prefix.mpr (hroot.trans hprefix)
  have hcheck : checkPath (Path.join base path) = .ok () := by
    refine checkPath_eq_ok.mpr ⟨?_, ?_, hs⟩
    · rw [hj, toList_slash, List.mem_append, List.mem_cons]
      rintro (h | h | h)
      · exact hz (hfront _ h)
      · cases h
      · exact hz' h
    · intro h
      rw [h] at habs
      cases habs
  have hlast : Text.endsWith (Path.join base path) "/" = true → Text.endsWith path "/" = true := by
    intro h
    have hslash : ['/'] <:+ front.toList ++ '/' :: path.toList := by
      rw [← toList_slash, ← hj]
      exact List.isSuffixOf_iff_suffix.mp h
    have hpath : path.toList <:+ front.toList ++ '/' :: path.toList :=
      (List.suffix_cons _ _).trans (List.suffix_append _ _)
    have hpos : 0 < path.toList.length := List.length_pos_iff.mpr (by simpa using hne')
    exact List.isSuffixOf_iff_suffix.mpr (List.suffix_of_suffix_length_le hslash hpath hpos)
  refine resolve_eq_ok.mpr ⟨hcheck, ?_, fun h => hend (hlast h)⟩
  rw [startOf, if_pos ha] at hwalk
  rw [startOf, if_neg (by simp [hr])] at hwalk'
  rw [startOf, if_pos habs, namesOf_join hne hr, List.foldlM_append, hwalk]
  exact hwalk'

end FileTree

end ApiReference
