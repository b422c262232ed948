import ApiReference.Proofs.Run.Job

/-! A render is all or nothing: when it fails no file has changed, and when it succeeds the document
stands at the output path and every other file is as it was. -/

namespace ApiReference

variable {σ α : Type}

lemma failureReport_exitCode (failure : Failure) (json : Bool) :
    (failureReport failure json).exitCode = 1 := by
  cases json <;> rfl

lemma renderReport_exitCode (plan : RunPlan) (stats : RunStats) (json : Bool) (ms : Nat) :
    (renderReport plan stats json ms).exitCode = 0 := by
  cases json <;> rfl

/-! ### The inputs of a plan -/

def Answers (tree : σ → FileTree) (t : FileTree) (x : StateM σ α) (a : α) : Prop :=
  ∃ s, tree s = t ∧ (x.run s).1 = a

def FileTree.HoldsGraph (tree : FileTree) (path : String) (graph : SymbolGraph) : Prop :=
  ∃ text, tree.readText path = .ok text ∧ SymbolGraph.ofText path text = .ok graph

section

variable (host : Host (StateM σ)) (tree : σ → FileTree)

inductive RunPlan.ListsHeaders (plan : RunPlan) (t : FileTree) : List String → Prop
  | absent : plan.umbrella = none ∨ plan.umbrella = some "" → ListsHeaders plan t []
  | read {path text : String} : plan.umbrella = some path → path ≠ "" → t.readText path = .ok text →
      ListsHeaders plan t (UmbrellaHeader.headers text plan.module)
  | unreadable {path : String} {fault : FileFault} : plan.umbrella = some path →
      Answers tree t (host.readText path) (.error fault) → ListsHeaders plan t []

def RunPlan.Prepares (plan : RunPlan) (t : FileTree) (prepared : PreparedGraph) : Prop :=
  ∃ graphs secondary headers,
    List.Forall₂ t.HoldsGraph plan.primary graphs ∧ t.HoldsGraph plan.secondary secondary ∧
      plan.ListsHeaders host tree t headers ∧
      prepared = .prepare (.ofGraphs graphs secondary) headers plan.options.marker

def Settings.Documents (settings : Settings) (t : FileTree) (markdown : String) : Prop :=
  ∃ plan prepared, Answers tree t (RunPlan.ofSettings host settings).run (.ok plan) ∧
    plan.Prepares host tree t prepared ∧ markdown = prepared.markdown plan.options

end

section

variable {host : Host (StateM σ)} {tree : σ → FileTree} (laws : host.Over tree)
include laws

lemma ofSettings_run (settings : Settings) (s : σ) :
    tree ((RunPlan.ofSettings host settings).run.run s).2 = tree s ∧
      ∀ plan, ((RunPlan.ofSettings host settings).run.run s).1 = .ok plan →
        plan.output = settings.outputPath := by
  rw [RunPlan.ofSettings]
  split
  · cases settings.inputs.secondary with
    | none => exact ⟨rfl, nofun⟩
    | some secondary => exact ⟨rfl, by rintro _ ⟨⟩; rfl⟩
  · cases settings.inputs.graphDir with
    | none => exact ⟨rfl, nofun⟩
    | some dir =>
      rcases hr : (host.discover dir settings.moduleName).run s with ⟨found, s'⟩
      have hk := (laws.discover dir settings.moduleName).of_run hr
      simp only [ExceptT.run_bind, ExceptT.run_mk, StateT.run_bind, hr]
      cases found with
      | error failure => exact ⟨hk, nofun⟩
      | ok primary =>
        cases settings.inputs.secondary with
        | none => exact ⟨hk, nofun⟩
        | some secondary => exact ⟨hk, by rintro _ ⟨⟩; rfl⟩

lemma planOf_ensures (settings : Settings) (s : σ) :
    (planOf host settings).Ensures s
      (fun plan s' => tree s' = tree s ∧ plan.output = settings.outputPath ∧
        Answers tree (tree s) (RunPlan.ofSettings host settings).run (.ok plan))
      fun s' => tree s' = tree s := by
  obtain ⟨hk, ho⟩ := ofSettings_run laws settings s
  refine .bind (.ask ?_)
  cases hp : ((RunPlan.ofSettings host settings).run.run s).1 with
  | error failure => exact .throw hk
  | ok plan => exact .pure ⟨hk, ho plan hp, s, rfl, hp⟩

lemma loadGraph_ensures (path : String) (s : σ) :
    (loadGraph host path).Ensures s
      (fun graph s' => tree s' = tree s ∧ (tree s).HoldsGraph path graph)
      fun s' => tree s' = tree s := by
  refine .bind (.onFile (fun text s' ht => ?_) fun _ _ hr => (laws.readText path).of_run hr)
  have hk := (laws.readText path).of_run ht
  cases hg : SymbolGraph.ofText path text with
  | error failure => exact .throw hk
  | ok graph => exact .bind (.note (.pure ⟨hk, text, laws.readText_ok path s text s' ht, hg⟩))

lemma loadGraphs_ensures (primary : List String) (secondary : String) (s : σ) :
    (loadGraphs host primary secondary).Ensures s
      (fun loaded s' => tree s' = tree s ∧ ∃ graphs headers,
        List.Forall₂ (tree s).HoldsGraph primary graphs ∧ (tree s).HoldsGraph secondary headers ∧
          loaded = .ofGraphs graphs headers)
      fun s' => tree s' = tree s := by
  rw [loadGraphs]
  split
  · exact .bind (.throw rfl)
  · refine ((Job.Ensures.mapM (loadGraph_ensures laws) primary s).mono ?_ fun _ h => h).bind
    rintro graphs s₁ ⟨h₁, hg⟩
    refine ((loadGraph_ensures laws secondary s₁).mono ?_ fun _ h => h.trans h₁).bind
    rintro headers s₂ ⟨h₂, hh⟩
    rw [h₁] at h₂ hh
    exact .bind (.note (.pure ⟨h₂, graphs, headers, hg, hh, rfl⟩))

lemma loadHeaders_run (plan : RunPlan) (log : List LogRecord) (s : σ) :
    tree (((loadHeaders host plan.umbrella plan.module).run log).run s).2 = tree s ∧
      plan.ListsHeaders host tree (tree s)
        (((loadHeaders host plan.umbrella plan.module).run log).run s).1.1 := by
  cases hu : plan.umbrella with
  | none => exact ⟨rfl, .absent (.inl hu)⟩
  | some path =>
    by_cases he : path = ""
    · subst he
      exact ⟨rfl, .absent (.inr hu)⟩
    · rcases hr : (host.readText path).run s with ⟨read, s'⟩
      have hk := (laws.readText path).of_run hr
      cases read with
      | ok text =>
        have hrun : ((loadHeaders host (some path) plan.module).run log).run s =
            ((UmbrellaHeader.headers text plan.module,
              log ++ [Journal.headersListed path (UmbrellaHeader.headers text plan.module)]), s') := by
          simp only [loadHeaders, he, if_false, StateT.run_bind, StateT.run_monadLift,
            monadLift_self, hr]
          rfl
        rw [hrun]
        exact ⟨hk, .read hu he (laws.readText_ok path s text s' hr)⟩
      | error fault =>
        have hrun : ((loadHeaders host (some path) plan.module).run log).run s =
            (([], log ++ [Journal.headersUnreadable path fault.message]), s') := by
          simp only [loadHeaders, he, if_false, StateT.run_bind, StateT.run_monadLift,
            monadLift_self, hr]
          rfl
        rw [hrun]
        exact ⟨hk, .unreadable hu ⟨s, rfl, congrArg Prod.fst hr⟩⟩

lemma loadPrepared_ensures (plan : RunPlan) (s : σ) :
    (loadPrepared host plan).Ensures s
      (fun prepared s' => tree s' = tree s ∧ plan.Prepares host tree (tree s) prepared)
      fun s' => tree s' = tree s := by
  refine ((loadGraphs_ensures laws plan.primary plan.secondary s).mono ?_ fun _ h => h).bind
  rintro loaded s₁ ⟨h₁, graphs, secondary, hg, hs, rfl⟩
  refine .bind (.lift fun log => ?_)
  obtain ⟨h₂, hh⟩ := loadHeaders_run laws plan log s₁
  rw [h₁] at h₂ hh
  exact .bind (.note (.pure ⟨h₂, graphs, secondary, _, hg, hs, hh, rfl⟩))

/-! ### Writing the document -/

def Written (path text : String) (before after : FileTree) : Prop :=
  ∃ place, after.resolve path = .ok place ∧
    after.files = Function.update before.files place (some (.text text))

lemma writeOutput_ensures (path text : String) (s : σ) :
    (writeOutput host path text).Ensures s (fun _ s' => Written path text (tree s) (tree s'))
      fun s' => (tree s').files = (tree s).files := by
  have hk := laws.createAll_files (directoryOf path)
  refine .bind (.onFile (fun _ s₁ h₁ => ?_) fun _ _ h => hk.of_run h)
  have hf : (tree s₁).files = (tree s).files := hk.of_run h₁
  refine .bind (.onFile (fun beside s₂ h₂ => ?_) fun fault s₂ h₂ => ?_)
  · obtain ⟨place, name, hb⟩ := FileTree.beside_createFile (laws.createTemporary_ok _ s₁ beside s₂ h₂)
    refine .onFile (fun _ s₃ h₃ => ?_) fun fault s₃ h₃ => ?_
    · obtain ⟨q, hq, hw⟩ := laws.persist_files hb h₃
      rw [hf] at hw
      exact ⟨q, hq, hw⟩
    · exact (laws.persist_files hb h₃).trans hf
  · rw [laws.createTemporary_error _ s₁ fault s₂ h₂]
    exact hf

lemma generate_ensures (plan : RunPlan) (s : σ) :
    (generate host plan).Ensures s
      (fun _ s' => ∃ prepared, plan.Prepares host tree (tree s) prepared ∧
        Written plan.output (prepared.markdown plan.options) (tree s) (tree s'))
      fun s' => (tree s').files = (tree s).files := by
  refine ((loadPrepared_ensures laws plan s).mono ?_ fun _ h => congrArg FileTree.files h).bind
  rintro prepared s₁ ⟨h₁, hp⟩
  refine .bind (.note ?_)
  rw [← h₁] at hp ⊢
  refine ((writeOutput_ensures laws plan.output (prepared.markdown plan.options) s₁).mono ?_
    fun _ h => h).bind
  intro _ s₂ h₂
  exact .bind (.note (.pure ⟨prepared, hp, h₂⟩))

lemma planned_ensures (settings : Settings) (s : σ) :
    Job.Ensures (do let plan ← planOf host settings; pure (plan, ← generate host plan)) s
      (fun _ s' => ∃ markdown, settings.Documents host tree (tree s) markdown ∧
        Written settings.outputPath markdown (tree s) (tree s'))
      fun s' => (tree s').files = (tree s).files := by
  refine ((planOf_ensures laws settings s).mono ?_ fun _ h => congrArg FileTree.files h).bind
  rintro plan s₁ ⟨h₁, ho, ha⟩
  rw [← h₁] at ha ⊢
  refine ((generate_ensures laws plan s₁).mono ?_ fun _ h => h).bind
  rintro stats s₂ ⟨prepared, hp, hw⟩
  rw [ho] at hw
  exact .pure ⟨_, ⟨plan, prepared, ha, hp, rfl⟩, hw⟩

theorem runRender_all_or_nothing (settings : Settings) (json : Bool) (filter : List LogDirective)
    {s s' : σ} {report : Report} (h : (runRender host settings json filter).run s = (report, s')) :
    report.exitCode = 1 ∧ (tree s').files = (tree s).files ∨
      report.exitCode = 0 ∧ ∃ markdown, settings.Documents host tree (tree s) markdown ∧
        Written settings.outputPath markdown (tree s) (tree s') := by
  obtain ⟨started, s₁, h₁, h⟩ := exists_of_run_bind h
  obtain ⟨ended, s₂, h₂, h⟩ := exists_of_run_bind h
  obtain ⟨stopped, s₃, h₃, h⟩ := exists_of_run_bind h
  cases h
  have hs : tree s₁ = tree s := laws.clock.of_run h₁
  have he : tree s' = tree s₂ := laws.clock.of_run h₃
  rw [← hs, he]
  obtain ⟨failure, hr, hf⟩ | ⟨⟨plan, stats⟩, hr, hd⟩ := (planned_ensures laws settings s₁).finish h₂
  · rw [hr]
    exact Or.inl ⟨failureReport_exitCode failure json, hf⟩
  · rw [hr]
    exact Or.inr ⟨renderReport_exitCode plan stats json _, hd⟩

end

def outlineTree (secondary : String) : FileTree where
  entries := [(["a"], .file (.text "[[]]")), (["s"], .file (.text secondary)),
    (["o"], .file (.text "old"))]
  workingDirectory := []

def outlineSettings : Settings where
  inputs := { primary := ["a"], secondary := some "s" }
  outputPath := "o"

theorem runRender_all_or_nothing_outline :
    (∃ report after, (runRender treeHost outlineSettings false []).run (outlineTree "[") = (report, after) ∧
      report.exitCode = 1 ∧ after.files = (outlineTree "[").files) ∧
    ∃ report after markdown,
      (runRender treeHost outlineSettings true []).run (outlineTree "[[]]") = (report, after) ∧
        report.exitCode = 0 ∧
        outlineSettings.Documents treeHost id (outlineTree "[[]]") markdown ∧
        Written "o" markdown (outlineTree "[[]]") after := by
  constructor
  · have hc : ((runRender treeHost outlineSettings false []).run (outlineTree "[")).1.exitCode ≠ 0 := by
      decide +kernel
    rcases h : (runRender treeHost outlineSettings false []).run (outlineTree "[") with ⟨report, after⟩
    rw [h] at hc
    obtain hf | ⟨h0, -⟩ := runRender_all_or_nothing treeHost_over outlineSettings false [] h
    · exact ⟨report, after, rfl, hf⟩
    · exact absurd h0 hc
  · have hc : ((runRender treeHost outlineSettings true []).run (outlineTree "[[]]")).1.exitCode ≠ 1 := by
      decide +kernel
    rcases h : (runRender treeHost outlineSettings true []).run (outlineTree "[[]]") with ⟨report, after⟩
    rw [h] at hc
    obtain ⟨h1, -⟩ | ⟨h0, markdown, hd, hw⟩ := runRender_all_or_nothing treeHost_over outlineSettings true [] h
    · exact absurd h1 hc
    · exact ⟨report, after, markdown, rfl, h0, hd, hw⟩

end ApiReference
