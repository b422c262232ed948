import ApiReference.Files.Tree
import ApiReference.Proofs.Except
import Mathlib.Logic.Function.Basic
import Mathlib.Tactic

/-! What the operations on a file tree do to the files in it, and which paths lead where they led before. -/

namespace ApiReference

namespace FileTree

def files (tree : FileTree) (place : Place) : Option Content :=
  match tree.standing? place with
  | some (.file content) => some content
  | _ => none

lemma files_eq_some {tree : FileTree} {place : Place} {content : Content} :
    tree.files place = some content ↔ tree.standing? place = some (.file content) := by
  rw [files]
  cases tree.standing? place with
  | none => simp
  | some entry => cases entry <;> simp

/-! ### Entries -/

lemma standing?_erase (tree : FileTree) {place : Place} (hp : place ≠ []) (q : Place) :
    (tree.erase place).standing? q = if q = place then none else tree.standing? q := by
  rw [standing?, standing?, erase]
  by_cases hq : q = place
  · subst hq
    simp [hp]
  · rw [if_neg hq]
    have hf : (fun e : Place × FileEntry => decide ((e.1 != place) = true ∧ (e.1 == q) = true)) =
        fun e => e.1 == q := by
      funext e
      by_cases he : e.1 = q
      · simp [he, hq]
      · simp [he]
    rw [List.find?_filter, hf]

lemma standing?_set (tree : FileTree) {place : Place} (hp : place ≠ []) (entry : FileEntry) (q : Place) :
    (tree.set place entry).standing? q = if q = place then some entry else tree.standing? q := by
  by_cases hq : q = place
  · subst hq
    simp [standing?, set, hp]
  · have he := standing?_erase tree hp q
    rw [if_neg hq] at he ⊢
    rw [← he, standing?, standing?, set, List.find?_cons_of_neg (by simpa using Ne.symm hq)]

lemma files_set_directory {tree : FileTree} {place : Place} (hp : place ≠ [])
    (h : tree.standing? place = none) : (tree.set place .directory).files = tree.files := by
  funext q
  rw [files, files, standing?_set tree hp]
  by_cases hq : q = place
  · rw [if_pos hq, hq, h]
  · rw [if_neg hq]

lemma files_set_file (tree : FileTree) {place : Place} (hp : place ≠ []) (content : Content) :
    (tree.set place (.file content)).files = Function.update tree.files place (some content) := by
  funext q
  rw [files, standing?_set tree hp]
  by_cases hq : q = place
  · rw [if_pos hq, hq, Function.update_self]
  · rw [if_neg hq, Function.update_of_ne hq]
    rfl

lemma files_erase (tree : FileTree) {place : Place} (hp : place ≠ []) :
    (tree.erase place).files = Function.update tree.files place none := by
  funext q
  rw [files, standing?_erase tree hp]
  by_cases hq : q = place
  · rw [if_pos hq, hq, Function.update_self]
  · rw [if_neg hq, Function.update_of_ne hq]
    rfl

/-! ### Following paths -/

lemma step_eq_ok (tree : FileTree) (place next : Place) (name : String) :
    tree.step place name = .ok next ↔ tree.standing? place = some .directory ∧
      (name = "." ∧ next = place ∨ name = ".." ∧ next = place.dropLast ∨
        isOrdinary name = true ∧ checkName name = .ok () ∧ tree.standing? (place ++ [name]) ≠ none ∧
          next = place ++ [name]) := by
  rw [step]
  split
  · next hd => simp [hd]
  · next hd =>
    rw [ne_eq, not_not] at hd
    by_cases hdot : name = "."
    · simp [hd, hdot, isOrdinary, eq_comm]
    · by_cases hup : name = ".."
      · simp [hd, hup, isOrdinary, eq_comm]
      · by_cases hlong : name.utf8ByteSize > nameLimit
        · simp [hd, hdot, hup, hlong, checkName]
        · by_cases hn : tree.standing? (place ++ [name]) = none
          · simp [hd, hdot, hup, hlong, hn]
          · have ho : isOrdinary name = true := by simp [isOrdinary, hdot, hup]
            simp only [hd, hdot, hup, hlong, hn, ho, checkName, if_false, false_and, false_or, true_and,
              Except.ok.injEq, ne_eq, not_false_eq_true]
            exact eq_comm

lemma resolve_eq_ok {tree : FileTree} {path : String} {place : Place} :
    tree.resolve path = .ok place ↔ checkPath path = .ok () ∧
      (namesOf path).foldlM tree.step (tree.startOf path) = .ok place ∧
      (Text.endsWith path "/" = true → tree.standing? place = some .directory) := by
  constructor
  · intro h
    rw [resolve] at h
    obtain ⟨⟨⟩, hc, h⟩ := bind_eq_ok h
    obtain ⟨place', hw, h⟩ := bind_eq_ok h
    by_cases he : (Text.endsWith path "/" && decide (tree.standing? place' ≠ some .directory)) = true
    · rw [if_pos he] at h
      cases h
    · rw [if_neg he] at h
      cases h
      refine ⟨hc, hw, fun hend => ?_⟩
      simpa [hend] using he
  · rintro ⟨hc, hw, hd⟩
    have he : ¬ (Text.endsWith path "/" && decide (tree.standing? place ≠ some .directory)) = true := by
      simpa using hd
    rw [resolve, hc, ok_bind, hw, ok_bind, if_neg he]
    rfl

lemma resolveParent_eq_ok {tree : FileTree} {path name : String} {place : Place} :
    tree.resolveParent path = .ok (place, some name) ↔ checkPath path = .ok () ∧
      (namesOf path).dropLast.foldlM tree.step (tree.startOf path) = .ok place ∧
      tree.standing? place = some .directory ∧ (namesOf path).getLast? = some name ∧ isOrdinary name = true := by
  rw [resolveParent]
  constructor
  · intro h
    obtain ⟨⟨⟩, hc, h⟩ := bind_eq_ok h
    obtain ⟨place', hp, h⟩ := bind_eq_ok h
    by_cases hd : tree.standing? place' = some .directory
    · simp only [hd, ne_eq, not_true_eq_false, if_false] at h
      have hr := Except.ok.inj h
      simp only [Prod.mk.injEq, Option.filter_eq_some_iff] at hr
      obtain ⟨rfl, hl, ho⟩ := hr
      exact ⟨hc, hp, hd, hl, ho⟩
    · simp only [ne_eq, hd, not_false_eq_true, if_true] at h
      cases h
  · rintro ⟨hc, hp, hd, hl, ho⟩
    have hn : (some name).filter isOrdinary = some name := by rw [Option.filter_some, if_pos ho]
    rw [hc, ok_bind]
    dsimp only
    rw [hp, ok_bind, if_neg (not_not.mpr hd), hl, hn]
    rfl

structure KeepsDirectories (tree tree' : FileTree) : Prop where
  workingDirectory : tree'.workingDirectory = tree.workingDirectory
  directory {place : Place} : tree.standing? place = some .directory → tree'.standing? place = some .directory

namespace KeepsDirectories

section

variable {tree : FileTree} {place : Place} (hp : place ≠ []) (free : tree.standing? place ≠ some .directory)
include hp free

lemma set (entry : FileEntry) : tree.KeepsDirectories (tree.set place entry) where
  workingDirectory := rfl
  directory {q} hq := by
    have hne : q ≠ place := fun e => free (e ▸ hq)
    rw [standing?_set tree hp, if_neg hne, hq]

lemma erase : tree.KeepsDirectories (tree.erase place) where
  workingDirectory := rfl
  directory {q} hq := by
    have hne : q ≠ place := fun e => free (e ▸ hq)
    rw [standing?_erase tree hp, if_neg hne, hq]

end

variable {tree tree' : FileTree} (h : tree.KeepsDirectories tree')
include h

lemma walk {names : List String} {place last : Place} (hw : names.foldlM tree.step place = .ok last)
    (hd : tree.standing? last = some .directory) :
    names.foldlM tree'.step place = .ok last ∧ tree.standing? place = some .directory := by
  induction names generalizing place with
  | nil =>
    cases hw
    exact ⟨rfl, hd⟩
  | cons name names ih =>
    rw [List.foldlM_cons] at hw ⊢
    obtain ⟨next, hn, hw⟩ := bind_eq_ok hw
    obtain ⟨hrest, hnext⟩ := ih hw
    rw [step_eq_ok] at hn
    obtain ⟨hplace, hn⟩ := hn
    have hstep : tree'.step place name = .ok next := by
      rw [step_eq_ok]
      refine ⟨h.directory hplace, ?_⟩
      rcases hn with hn | hn | ⟨ho, hc, -, rfl⟩
      · exact Or.inl hn
      · exact Or.inr (Or.inl hn)
      · exact Or.inr (Or.inr ⟨ho, hc, by simp [h.directory hnext], rfl⟩)
    rw [hstep]
    exact ⟨hrest, hplace⟩

lemma resolveParent {path name : String} {place : Place} (hr : tree.resolveParent path = .ok (place, some name)) :
    tree'.resolveParent path = .ok (place, some name) := by
  rw [resolveParent_eq_ok] at hr ⊢
  obtain ⟨hc, hw, hd, hn⟩ := hr
  have hs : tree'.startOf path = tree.startOf path := by rw [startOf, startOf, h.workingDirectory]
  exact ⟨hc, hs ▸ (h.walk hw hd).1, h.directory hd, hn⟩

end KeepsDirectories

/-! ### Making entries -/

lemma create_ok {tree tree' : FileTree} {path : String} {entry : FileEntry} (h : tree.create path entry = .ok tree') :
    ∃ place name, tree.resolveParent path = .ok (place, some name) ∧ checkName name = .ok () ∧
      tree.standing? (place ++ [name]) = none ∧ tree' = tree.set (place ++ [name]) entry := by
  rw [create] at h
  obtain ⟨⟨place, name⟩, hr, h⟩ := bind_eq_ok h
  cases name with
  | none => cases h
  | some name =>
    obtain ⟨⟨⟩, hc, h⟩ := bind_eq_ok h
    by_cases hn : tree.standing? (place ++ [name]) = none
    · rw [if_pos hn] at h
      cases h
      exact ⟨place, name, hr, hc, hn, rfl⟩
    · rw [if_neg hn] at h
      cases h

lemma files_createDirectory {tree tree' : FileTree} {path : String}
    (h : tree.createDirectory path = .ok tree') : tree'.files = tree.files := by
  obtain ⟨place, name, -, -, hn, rfl⟩ := create_ok h
  exact files_set_directory (by simp) hn

/-! ### Putting files at paths -/

structure Writable (tree : FileTree) (path : String) (place : Place) (name : String) : Prop where
  parent : tree.resolveParent path = .ok (place, some name)
  short : checkName name = .ok ()
  open_end : Text.endsWith path "/" = false
  free : tree.standing? (place ++ [name]) ≠ some .directory

namespace Writable

variable {tree : FileTree} {path name : String} {place : Place} (h : tree.Writable path place name)
include h

lemma mono {tree' : FileTree} (hk : tree.KeepsDirectories tree')
    (free : tree'.standing? (place ++ [name]) ≠ some .directory) : tree'.Writable path place name :=
  ⟨hk.resolveParent h.parent, h.short, h.open_end, free⟩

lemma resolve (hs : tree.standing? (place ++ [name]) ≠ none) : tree.resolve path = .ok (place ++ [name]) := by
  obtain ⟨hc, hp, hd, hl, ho⟩ := resolveParent_eq_ok.mp h.parent
  have hlast : tree.step place name = .ok (place ++ [name]) := by
    rw [step_eq_ok]
    exact ⟨hd, Or.inr (Or.inr ⟨ho, h.short, hs, rfl⟩)⟩
  have hwalk : (namesOf path).foldlM tree.step (tree.startOf path) = .ok (place ++ [name]) := by
    rw [← List.dropLast_append_getLast? _ hl, List.foldlM_append, hp, ok_bind, List.foldlM_cons, hlast]
    rfl
  refine resolve_eq_ok.mpr ⟨hc, hwalk, fun he => ?_⟩
  rw [h.open_end] at he
  cases he

lemma set (content : Content) : (tree.set (place ++ [name]) (.file content)).Writable path place name := by
  have hne : place ++ [name] ≠ [] := by simp
  apply h.mono (.set hne h.free _)
  rw [standing?_set tree hne, if_pos rfl]
  simp

lemma resolve_set (content : Content) :
    (tree.set (place ++ [name]) (.file content)).resolve path = .ok (place ++ [name]) := by
  apply (h.set content).resolve
  rw [standing?_set tree (by simp), if_pos rfl]
  simp

lemma write (content : Content) : tree.write path content = .ok (tree.set (place ++ [name]) (.file content)) := by
  rw [FileTree.write, h.parent, ok_bind]
  dsimp only
  rw [h.open_end, h.short, if_neg h.free]
  rfl

end Writable

end FileTree

end ApiReference
