import ApiReference.CommandLine.Basic
import ApiReference.Proofs.Except
import ApiReference.Run.Plan
import Mathlib.Tactic

/-! Plans under arguments and settings. The sources of primary graphs stand in one order, and the first of them
wins. All else is taken from the arguments where they name it. -/

namespace ApiReference

variable {m : Type → Type} [Monad m]

inductive PrimarySource
  | files (paths : List String)
  | directory (path : String)
  deriving DecidableEq, Repr

namespace PrimarySource

def offered (files : List String) (directory : Option String) : List PrimarySource :=
  (if files = [] then [] else [.files files]) ++ directory.toList.map .directory

def graphs (host : Host m) (module : String) : PrimarySource → m (Except Failure (List String))
  | files paths => pure (.ok paths)
  | directory path => host.discover path module

lemma offered_files {files : List String} (h : files ≠ []) (directory : Option String) :
    offered files directory = .files files :: directory.toList.map .directory := by
  rw [offered, if_neg h]
  rfl

lemma offered_nil (directory : Option String) : offered [] directory = directory.toList.map .directory := rfl

end PrimarySource

open PrimarySource

namespace InputArguments

def sources (args : InputArguments) (s : Settings) : List PrimarySource :=
  offered args.primary args.graphDir ++ offered s.inputs.primary s.inputs.graphDir

def moduleOver (args : InputArguments) (s : Settings) : String := args.module.getD s.moduleName

def planOver (args : InputArguments) (s : Settings) (primary : List String) : Except Failure RunPlan :=
  match args.secondary <|> s.inputs.secondary with
  | none => .error (.missingInput "no secondary symbol graph given (use --secondary)")
  | some secondary =>
    .ok
      { module := args.moduleOver s
        primary
        secondary
        umbrella := args.umbrellaHeader <|> s.inputs.umbrellaHeader
        output := s.outputPath
        options :=
          { title := s.render.title.getD (DocumentOptions.forModule (args.moduleOver s)).title
            intro := s.render.intro.getD (DocumentOptions.forModule (args.moduleOver s)).intro
            fence := s.render.fenceLanguage
            marker := s.render.optOutMarker
            placeholder := s.render.placeholder } }

lemma head?_offered_apply (args : InputArguments) (s : Settings) :
    (offered (args.apply s).inputs.primary (args.apply s).inputs.graphDir).head? = (args.sources s).head? := by
  change (offered (args.primaryOver s.inputs) (args.graphDir <|> s.inputs.graphDir)).head? = _
  rw [sources, primaryOver]
  by_cases hp : args.primary = []
  · rw [hp, offered_nil]
    cases args.graphDir <;> rfl
  · rw [if_pos (by simpa using hp), offered_files hp, offered_files hp]
    rfl

lemma apply_apply (args : InputArguments) (s : Settings) : args.apply (args.apply s) = args.apply s := by
  have hmodule : args.module.getD (args.module.getD s.moduleName) = args.module.getD s.moduleName := by
    cases args.module <;> rfl
  have hover (a b : Option String) : (a <|> a <|> b) = (a <|> b) := by
    cases a <;> rfl
  have hprimary : args.primaryOver (args.apply s).inputs = args.primaryOver s.inputs := by
    rw [primaryOver, primaryOver]
    split_ifs with hp hd
    · rfl
    · rfl
    · change args.primaryOver s.inputs = _
      rw [primaryOver, if_neg hp, if_neg hd]
  rw [apply, hprimary]
  change Settings.mk _ (args.module.getD (args.module.getD s.moduleName))
    (InputSettings.mk _ (args.graphDir <|> args.graphDir <|> s.inputs.graphDir)
      (args.secondary <|> args.secondary <|> s.inputs.secondary)
      (args.umbrellaHeader <|> args.umbrellaHeader <|> s.inputs.umbrellaHeader)) _ _ _ = _
  rw [hmodule, hover, hover, hover]
  rfl

end InputArguments

lemma run_mk_bind [LawfulMonad m] {ε α β : Type} {x : m (Except ε α)} {next : α → ExceptT ε m β}
    {f : α → Except ε β} (h : ∀ a, (next a).run = pure (f a)) : (ExceptT.mk x >>= next).run = (· >>= f) <$> x := by
  rw [ExceptT.run_bind, ExceptT.run_mk, map_eq_pure_bind]
  apply congrArg (x >>= ·)
  funext found
  cases found with
  | error e => rfl
  | ok a => exact h a

namespace RunPlan

section

variable [LawfulMonad m] (host : Host m)

lemma run_ofSettings (s : Settings) :
    (ofSettings host s).run =
      (offered s.inputs.primary s.inputs.graphDir).head?.elim
        (pure (.error (.missingInput "no primary symbol graphs given (use --primary or --graph-dir)")))
        fun source => (· >>= InputArguments.planOver {} s) <$> source.graphs host s.moduleName := by
  rw [ofSettings]
  by_cases hp : s.inputs.primary = []
  · rw [if_neg (by simp [hp]), hp, offered_nil]
    cases s.inputs.graphDir with
    | none => exact pure_bind (Except.error _) _
    | some dir =>
      refine run_mk_bind fun primary => ?_
      rw [InputArguments.planOver]
      cases s.inputs.secondary <;> rfl
  · rw [if_pos (by simpa using hp), offered_files hp]
    change _ = (· >>= InputArguments.planOver {} s) <$> pure (Except.ok s.inputs.primary)
    rw [map_pure, pure_bind, ok_bind, InputArguments.planOver]
    cases s.inputs.secondary <;> rfl

/-- The first source wins, then everything is planned under the module in force. Where the host fails to search a
directory, it does so before a missing secondary graph is met. -/
theorem ofSettings_apply (args : InputArguments) (s : Settings) :
    (ofSettings host (args.apply s)).run =
        (args.sources s).head?.elim
          (pure (.error (.missingInput "no primary symbol graphs given (use --primary or --graph-dir)")))
          (fun source => (· >>= args.planOver s) <$> source.graphs host (args.moduleOver s)) ∧
      (args.apply s).outputPath = s.outputPath ∧ (args.apply s).render = s.render ∧
      (args.apply s).logging = s.logging ∧ args.apply (args.apply s) = args.apply s := by
  have hplan : InputArguments.planOver {} (args.apply s) = args.planOver s := rfl
  refine ⟨?_, rfl, rfl, rfl, args.apply_apply s⟩
  rw [run_ofSettings, args.head?_offered_apply s, hplan]
  rfl

end

def extractedTree : FileTree where
  entries := [(["graphs"], .directory), (["graphs", "Ably.symbols.json"], .file (.text "")),
    (["graphs", "Ably@Swift.symbols.json"], .file (.text "")), (["graphs", "Other.symbols.json"], .file (.text ""))]
  workingDirectory := []

lemma names_extracted : extractedTree.names "graphs" =
    .ok ["Ably.symbols.json", "Ably@Swift.symbols.json", "Other.symbols.json"] :=
  congrArg Except.ok (List.mergeSort_of_pairwise (by decide +kernel))

lemma discover_extracted : (treeHost.discover "graphs" "Ably").run extractedTree =
    (.ok ["graphs/Ably.symbols.json", "graphs/Ably@Swift.symbols.json"], extractedTree) := by
  have hsegments : Text.split '/' ("graphs" ++ "/" ++ "Ably") = ["graphs", "Ably"] := by decide +kernel
  have hfollow : (treeHost.follow (some ".") "graphs").run extractedTree = (some "graphs", extractedTree) := rfl
  have hdirectory : (treeHost.isDirectory "graphs").run extractedTree = (true, extractedTree) := rfl
  have hnames : (treeHost.names "graphs").run extractedTree = (extractedTree.names "graphs", extractedTree) := rfl
  simp only [Host.discover, hsegments]
  change ((treeHost.follow (some ".") "graphs" >>= _).run extractedTree) = _
  rw [StateT.run_bind, hfollow]
  change ((treeHost.isDirectory "graphs" >>= _).run extractedTree) = _
  rw [StateT.run_bind, hdirectory]
  change ((treeHost.names "graphs" >>= _).run extractedTree) = _
  rw [StateT.run_bind, hnames, names_extracted]
  rfl

def directoryArguments : InputArguments := { module := some "Ably", graphDir := some "graphs" }

def listedSettings : Settings := { inputs := { primary := ["set.json"], secondary := some "objc.json" } }

theorem ofSettings_apply_directory :
    directoryArguments.sources listedSettings = [.directory "graphs", .files ["set.json"]] ∧
      ∃ plan, (ofSettings treeHost (directoryArguments.apply listedSettings)).run.run extractedTree =
          (.ok plan, extractedTree) ∧
        plan.primary = ["graphs/Ably.symbols.json", "graphs/Ably@Swift.symbols.json"] ∧
        plan.secondary = "objc.json" ∧ plan.options.title = "Ably Public API Reference" := by
  have hsources : directoryArguments.sources listedSettings = [.directory "graphs", .files ["set.json"]] := rfl
  refine ⟨hsources, ?_⟩
  rw [(ofSettings_apply treeHost directoryArguments listedSettings).1, hsources]
  change ∃ plan, ((· >>= directoryArguments.planOver listedSettings) <$> treeHost.discover "graphs" "Ably").run
    extractedTree = _ ∧ _
  rw [StateT.run_map, discover_extracted]
  exact ⟨_, rfl, rfl, rfl, rfl⟩

end RunPlan

end ApiReference
