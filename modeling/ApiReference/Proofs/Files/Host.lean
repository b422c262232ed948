import ApiReference.Files.Discovery
import ApiReference.Proofs.Files.Replacement

/-! Surroundings that show a file tree. Any of their operations may fail, and whatever they do to the
tree is one operation of it. -/

namespace ApiReference

lemma exists_of_run_bind {σ α β : Type} {x : StateM σ α} {f : α → StateM σ β} {s s' : σ} {b : β}
    (h : (x >>= f).run s = (b, s')) : ∃ a s₁, x.run s = (a, s₁) ∧ (f a).run s₁ = (b, s') :=
  ⟨_, _, rfl, h⟩

section

variable {σ α β γ δ : Type} {view : σ → γ}

def Keeps (view : σ → γ) (x : StateM σ α) : Prop := ∀ s, view (x.run s).2 = view s

lemma Keeps.of_run {x : StateM σ α} {s s' : σ} {a : α} (hx : Keeps view x) (h : x.run s = (a, s')) :
    view s' = view s := by
  have hs := hx s
  rw [h] at hs
  exact hs

lemma Keeps.pure (a : α) : Keeps view (Pure.pure a : StateM σ α) := fun _ => rfl

lemma Keeps.bind {x : StateM σ α} {f : α → StateM σ β} (hx : Keeps view x)
    (hf : ∀ a, Keeps view (f a)) : Keeps view (x >>= f) :=
  fun s => (hf _ _).trans (hx s)

lemma Keeps.comp {x : StateM σ α} (hx : Keeps view x) (f : γ → δ) : Keeps (fun s => f (view s)) x :=
  fun s => congrArg f (hx s)

lemma Keeps.foldlM {step : β → α → StateM σ β} (h : ∀ b a, Keeps view (step b a)) (xs : List α)
    (b : β) : Keeps view (xs.foldlM step b) := by
  induction xs generalizing b with
  | nil => exact Keeps.pure b
  | cons a xs ih =>
    rw [List.foldlM_cons]
    exact (h b a).bind ih

end

/-- A host over the tree that its state shows. Looking changes nothing, and a text that was read is
the tree's. A change is the tree's own, or it fails and leaves the tree alone; only a text may have been
written in part. A file that is there can be removed. -/
structure Host.Over {σ : Type} (host : Host (StateM σ)) (tree : σ → FileTree) : Prop where
  isFile path : Keeps tree (host.isFile path)
  isDirectory path : Keeps tree (host.isDirectory path)
  names path : Keeps tree (host.names path)
  clock : Keeps tree host.clock
  readText path : Keeps tree (host.readText path)
  readText_ok path s text s' : (host.readText path).run s = (.ok text, s') →
    (tree s).readText path = .ok text
  createDirectory_ok path s s' : (host.createDirectory path).run s = (.ok (), s') →
    (tree s).createDirectory path = .ok (tree s')
  createDirectory_error path s fault s' : (host.createDirectory path).run s = (.error fault, s') →
    tree s' = tree s
  createTemporary_ok directory s path s' : (host.createTemporary directory).run s = (.ok path, s') →
    (tree s).createFile path = .ok (tree s')
  createTemporary_error directory s fault s' :
    (host.createTemporary directory).run s = (.error fault, s') → tree s' = tree s
  writeText_ok path text s s' : (host.writeText path text).run s = (.ok (), s') →
    (tree s).writeText path text = .ok (tree s')
  writeText_error path text s fault s' : (host.writeText path text).run s = (.error fault, s') →
    tree s' = tree s ∨ ∃ part, (tree s).write path part = .ok (tree s')
  moveFile_ok source target s s' : (host.moveFile source target).run s = (.ok (), s') →
    (tree s).moveFile source target = .ok (tree s')
  moveFile_error source target s fault s' :
    (host.moveFile source target).run s = (.error fault, s') → tree s' = tree s
  removeFile path s after : (tree s).removeFile path = .ok after →
    tree ((host.removeFile path).run s).2 = after

namespace FileTree

section

variable {α : Type} {operation : FileTree → Except FileFault (α × FileTree)} {t t' : FileTree}

lemma change_ok {a : α} (h : (change operation).run t = (.ok a, t')) : operation t = .ok (a, t') := by
  rw [StateT.run, change] at h
  cases hc : operation t with
  | ok made =>
    rw [hc] at h
    cases h
    rfl
  | error fault =>
    rw [hc] at h
    cases h

lemma change_error {fault : FileFault} (h : (change operation).run t = (.error fault, t')) : t' = t := by
  rw [StateT.run, change] at h
  cases hc : operation t with
  | ok made =>
    rw [hc] at h
    cases h
  | error fault =>
    rw [hc] at h
    cases h
    rfl

end

section

variable {operation : FileTree → Except FileFault FileTree} {t t' : FileTree}

lemma update_ok (h : (update operation).run t = (.ok (), t')) : operation t = .ok t' := by
  obtain ⟨made, hm, h⟩ := bind_eq_ok (change_ok h)
  cases h
  exact hm

lemma update_error {fault : FileFault} (h : (update operation).run t = (.error fault, t')) : t' = t :=
  change_error h

lemma run_update (h : operation t = .ok t') : (update operation).run t = (.ok (), t') := by
  rw [StateT.run, update, change, h]
  rfl

end

lemma createFirst_ok {tree tree' : FileTree} {directory path : String} {names : List String}
    (h : tree.createFirst directory names = .ok (path, tree')) : tree.createFile path = .ok tree' := by
  induction names with
  | nil => cases h
  | cons name names ih =>
    rw [createFirst] at h
    cases hc : tree.createFile (Path.join directory name) with
    | ok created =>
      simp only [hc] at h
      cases h
      exact hc
    | error fault =>
      cases fault with
      | alreadyExists =>
        simp only [hc] at h
        exact ih h
      | _ =>
        simp only [hc] at h
        cases h

end FileTree

open FileTree in
theorem treeHost_over : treeHost.Over id where
  isFile _ _ := rfl
  isDirectory _ _ := rfl
  names _ _ := rfl
  clock _ := rfl
  readText _ _ := rfl
  readText_ok _ _ _ _ h := congrArg Prod.fst h
  createDirectory_ok _ _ _ := update_ok
  createDirectory_error _ _ _ _ := update_error
  createTemporary_ok _ _ _ _ h := createFirst_ok (change_ok h)
  createTemporary_error _ _ _ _ := change_error
  writeText_ok _ _ _ _ := update_ok
  writeText_error _ _ _ _ _ h := Or.inl (update_error h)
  moveFile_ok _ _ _ _ := update_ok
  moveFile_error _ _ _ _ _ := update_error
  removeFile _ _ _ h := congrArg Prod.snd (run_update h)

namespace Host

variable {σ : Type} {host : Host (StateM σ)} {tree : σ → FileTree} (laws : host.Over tree)
include laws

/-! ### Looking -/

lemma Over.pathExists (path : String) : Keeps tree (host.pathExists path) := by
  refine (laws.isFile path).bind fun found => ?_
  cases found with
  | true => exact Keeps.pure true
  | false => exact laws.isDirectory path

lemma Over.follow (path : Option String) (name : String) : Keeps tree (host.follow path name) := by
  cases path with
  | none => exact Keeps.pure none
  | some path =>
    rw [Host.follow]
    split
    · exact (laws.isDirectory path).bind fun _ => Keeps.pure _
    · exact (laws.pathExists _).bind fun _ => Keeps.pure _

lemma Over.graphsIn (path module : String) : Keeps tree (host.graphsIn path module) := by
  refine (laws.names path).bind fun listed => ?_
  cases listed <;> exact Keeps.pure _

lemma Over.discover (dir module : String) : Keeps tree (host.discover dir module) := by
  refine (Keeps.foldlM laws.follow _ _).bind fun path => ?_
  cases path with
  | none => exact Keeps.pure _
  | some path =>
    refine (laws.isDirectory path).bind fun found => ?_
    cases found with
    | true => exact laws.graphsIn path _
    | false => exact Keeps.pure _

/-! ### Directories -/

lemma Over.createDirectory_files (path : String) :
    Keeps (fun s => (tree s).files) (host.createDirectory path) := by
  intro s
  rcases h : (host.createDirectory path).run s with ⟨made, s'⟩
  cases made with
  | ok => exact FileTree.files_createDirectory (laws.createDirectory_ok path s s' h)
  | error fault => exact congrArg FileTree.files (laws.createDirectory_error path s fault s' h)

lemma Over.ensureDirectory (path : String) (fault : FileFault) :
    Keeps tree (host.ensureDirectory path fault) := by
  refine (laws.isDirectory path).bind fun found => ?_
  cases found <;> exact Keeps.pure _

lemma Over.createDirectories_files (steps : Nat) (path : String) :
    Keeps (fun s => (tree s).files) (host.createDirectories steps path) := by
  have present path fault := (laws.ensureDirectory path fault).comp FileTree.files
  induction steps generalizing path with
  | zero => exact Keeps.pure _
  | succ steps ih =>
    rw [createDirectories]
    split
    · exact Keeps.pure _
    · refine (laws.createDirectory_files path).bind fun made => ?_
      cases made with
      | ok => exact Keeps.pure _
      | error fault =>
        cases fault with
        | notFound =>
          cases Path.parent? path with
          | none => exact Keeps.pure _
          | some parent =>
            refine (ih parent).bind fun above => ?_
            cases above with
            | error fault => exact Keeps.pure _
            | ok =>
              refine (laws.createDirectory_files path).bind fun made => ?_
              cases made with
              | ok => exact Keeps.pure _
              | error fault => exact present path fault
        | _ => exact present path _

lemma Over.createAll_files (path : String) : Keeps (fun s => (tree s).files) (host.createAll path) :=
  laws.createDirectories_files _ path

/-! ### Replacing a file -/

section

variable {before : FileTree} {path name : String} {place : Place} {content : Content} {s : σ}
  (h : FileTree.Beside before (tree s) path place name content)
include h

lemma Over.removeFile_files : (tree ((host.removeFile path).run s).2).files = before.files := by
  rw [laws.removeFile path s _ h.removeFile, h.files_erase]

/-- A text that takes the place of a file does so as a whole, and without a trace of the new file otherwise. -/
lemma Over.persist_files {target text : String} {persisted : Except FileFault Unit} {s' : σ}
    (hr : (host.persist path target text).run s = (persisted, s')) :
    match persisted with
    | .ok () => ∃ q, (tree s').resolve target = .ok q ∧
        (tree s').files = Function.update before.files q (some (.text text))
    | .error _ => (tree s').files = before.files := by
  obtain ⟨written, s₁, hw, hr⟩ := exists_of_run_bind hr
  cases written with
  | error fault =>
    cases hr
    obtain hsame | ⟨part, hpart⟩ := laws.writeText_error path text s fault s₁ hw
    · exact laws.removeFile_files (hsame ▸ h)
    · exact laws.removeFile_files (h.write hpart)
  | ok =>
    have hb := h.write (laws.writeText_ok path text s s₁ hw)
    obtain ⟨moved, s₂, hm, hr⟩ := exists_of_run_bind hr
    cases moved with
    | ok =>
      cases hr
      exact hb.moveFile (laws.moveFile_ok path target s₁ _ hm)
    | error fault =>
      cases hr
      exact laws.removeFile_files (laws.moveFile_error path target s₁ fault s₂ hm ▸ hb)

end

end Host

end ApiReference
