import ApiReference.CommandLine.Parser
import ApiReference.Proofs.Run.Job

/-! What scripts get. A run that is asked for an envelope prints one and nothing else, and ends with
the exit code in it. One failure comes too early for that: a settings file that was named and cannot
be used is reported to people alone. -/

namespace ApiReference

/-! ### What a run comes to -/

section

variable {m : Type → Type} [Monad m]

def Command.forScripts : Command → Bool
  | .render _ _ json => json
  | .members _ _ json => json
  | _ => false

def renderAnswer (host : Host m) (settings : Settings) : Job m Json := do
  let plan ← planOf host settings
  let stats ← generate host plan
  pure stats.toJson

def membersAnswer (host : Host m) (settings : Settings) (symbol : String) : Job m (Option Json) := do
  let plan ← planOf host settings
  let prepared ← loadPrepared host plan
  pure ((prepared.memberRows symbol).map fun found => Json.list (found.2.map MemberRow.toJson))

def Command.answer (host : Host m) (settings : Settings) : Command → Job m (Option Json)
  | .render inputs output _ =>
    let settings := inputs.apply settings
    some <$> renderAnswer host { settings with outputPath := output.getD settings.outputPath }
  | .members symbol inputs _ => membersAnswer host (inputs.apply settings) symbol
  | _ => pure none

def Command.outcome (host : Host m) (settings : Settings) (command : Command) :
    m (Except Failure (Option Json)) := do
  let _ ← host.clock
  let ended ← (command.answer host settings).finish
  pure ended.result

def Invocation.outcome (host : Host m) (environment : List (String × String)) (call : Invocation) :
    m (Except Failure (Option Json)) := do
  match call.config with
  | some path =>
    match ← Settings.loadFrom host environment path with
    | .ok settings => call.command.outcome host settings
    | .error e => pure (.error (.settings e.message))
  | none =>
    match ← Settings.load host environment with
    | .ok settings => call.command.outcome host settings
    | .error _ => call.command.outcome host {}

end

def Envelope.Conveys (e : Envelope) : Except Failure (Option Json) → Prop
  | .error failure => e = .ofFailure failure ∧ e.exitCode = 1
  | .ok none => e.code = .notFound ∧ e.exitCode = 1
  | .ok (some data) => e.code = .ok ∧ e.exitCode = 0 ∧ e.data = data

def Report.Carries (report : Report) (outcome : Except Failure (Option Json)) : Prop :=
  ∃ e : Envelope, report.outputText = e.text ++ "\n" ∧ report.exitCode = e.exitCode ∧ e.Conveys outcome

namespace Report

lemma Carries.of_output {report : Report} {outcome : Except Failure (Option Json)} {e : Envelope}
    (ho : report.output = [e.text]) (hc : report.exitCode = e.exitCode) (h : e.Conveys outcome) :
    report.Carries outcome := by
  refine ⟨e, ?_, hc, h⟩
  rw [outputText, ho]
  simp

lemma Carries.after {report : Report} {outcome : Except Failure (Option Json)}
    (h : report.Carries outcome) (lines : List ErrorLine) : (report.after lines).Carries outcome := h

end Report

lemma Envelope.exitCode_ofFailure (failure : Failure) : (ofFailure failure).exitCode = 1 := by
  cases failure <;> rfl

lemma failureReport_carries (failure : Failure) : (failureReport failure true).Carries (.error failure) :=
  have hc := Envelope.exitCode_ofFailure failure
  .of_output rfl hc.symm ⟨rfl, hc⟩

/-! ### Commands -/

section

variable {σ : Type} {host : Host (StateM σ)} {environment : List (String × String)} {s s' : σ}
  {report : Report}

lemma runRender_carries {settings : Settings} {filter : List LogDirective}
    (h : (runRender host settings true filter).run s = (report, s')) :
    report.Carries (((renderAnswer host settings).result [] (host.clock.run s).2).map some) := by
  obtain ⟨started, s₁, h₁, h⟩ := exists_of_run_bind h
  obtain ⟨ended, s₂, h₂, h⟩ := exists_of_run_bind h
  obtain ⟨stopped, s₃, -, h⟩ := exists_of_run_bind h
  cases h
  have hm : (renderAnswer host settings).result [] s₁ = ended.result.map fun done => done.2.toJson := by
    rw [Job.finish_result h₂]
    exact Job.result_bind_map (fun plan => Job.result_bind_map fun stats log s => rfl) [] s₁
  rw [h₁, hm]
  apply Report.Carries.after
  cases ended.result with
  | error failure => exact failureReport_carries failure
  | ok done => exact .of_output rfl rfl ⟨rfl, rfl, rfl⟩

lemma runMembers_carries {settings : Settings} {symbol : String} {filter : List LogDirective}
    (h : (runMembers host settings symbol true filter).run s = (report, s')) :
    report.Carries ((membersAnswer host settings symbol).result [] (host.clock.run s).2) := by
  obtain ⟨started, s₁, h₁, h⟩ := exists_of_run_bind h
  obtain ⟨ended, s₂, h₂, h⟩ := exists_of_run_bind h
  obtain ⟨stopped, s₃, -, h⟩ := exists_of_run_bind h
  cases h
  have hm : (membersAnswer host settings symbol).result [] s₁ =
      ended.result.map (Option.map fun found => Json.list (found.2.map MemberRow.toJson)) := by
    rw [Job.finish_result h₂]
    refine Job.result_bind_map (fun plan => Job.result_bind_map fun prepared log s => ?_) [] s₁
    cases prepared.find? symbol <;> rfl
  rw [h₁, hm]
  apply Report.Carries.after
  cases ended.result with
  | error failure => exact failureReport_carries failure
  | ok found =>
    cases found with
    | none => exact .of_output rfl rfl ⟨rfl, rfl⟩
    | some found => exact .of_output rfl rfl ⟨rfl, rfl, rfl⟩

/-! ### Invocations -/

lemma runCommand_carries {command : Command} {settings : Settings} {filter : List LogDirective}
    (hj : command.forScripts = true)
    (h : (runCommand host command settings filter).run s = (report, s')) :
    report.Carries ((command.outcome host settings).run s).1 := by
  cases command with
  | init force => cases hj
  | config => cases hj
  | render inputs output json =>
    obtain rfl : json = true := hj
    have hr := runRender_carries h
    rw [← Job.result_map] at hr
    exact hr
  | members symbol inputs json =>
    obtain rfl : json = true := hj
    exact runMembers_carries h

lemma Command.outcome_logging (command : Command) (settings : Settings) (logging : LogSettings) :
    command.outcome host { settings with logging } = command.outcome host settings := by
  cases command <;> rfl

lemma settingsFor_ok {call : Invocation} {settings : Settings} {said : List ErrorLine}
    (h : (settingsFor host environment call.config).run s = (.ok (settings, said), s')) :
    ((call.outcome host environment).run s).1 = ((call.command.outcome host settings).run s').1 := by
  rw [Invocation.outcome]
  cases hc : call.config with
  | none =>
    rw [hc] at h
    obtain ⟨loaded, s₁, hl, h⟩ := exists_of_run_bind h
    rw [StateT.run_bind, hl]
    cases loaded with
    | ok loaded =>
      cases h
      rfl
    | error e =>
      cases h
      rfl
  | some path =>
    rw [hc] at h
    obtain ⟨loaded, s₁, hl, h⟩ := exists_of_run_bind h
    rw [StateT.run_bind, hl]
    cases loaded with
    | ok loaded =>
      cases h
      rfl
    | error e => cases h

lemma settingsFor_error {config : Option String}
    (h : (settingsFor host environment config).run s = (.error report, s')) :
    ∃ path e, config = some path ∧ (Settings.loadFrom host environment path).run s = (.error e, s') ∧
      report = settingsReport path e := by
  cases config with
  | none =>
    obtain ⟨loaded, s₁, -, h⟩ := exists_of_run_bind h
    cases loaded <;> cases h
  | some path =>
    obtain ⟨loaded, s₁, hl, h⟩ := exists_of_run_bind h
    cases loaded with
    | ok settings => cases h
    | error e =>
      cases h
      exact ⟨path, e, rfl, hl, rfl⟩

theorem runInvocation_envelope {call : Invocation} (hj : call.command.forScripts = true)
    (h : (runInvocation host environment call).run s = (report, s')) :
    (∃ path e s₁, call.config = some path ∧
      (Settings.loadFrom host environment path).run s = (.error e, s₁) ∧
      report.outputText = "" ∧ report.exitCode = 1) ∨
    report.Carries ((call.outcome host environment).run s).1 := by
  obtain ⟨chosen, s₁, hs, h⟩ := exists_of_run_bind h
  cases chosen with
  | error early =>
    obtain ⟨path, e, hp, hl, rfl⟩ := settingsFor_error hs
    cases h
    exact Or.inl ⟨path, e, s', hp, hl, rfl, rfl⟩
  | ok chosen =>
    obtain ⟨settings, said⟩ := chosen
    obtain ⟨shown, s₂, hc, h⟩ := exists_of_run_bind h
    cases h
    have hr := runCommand_carries hj hc
    rw [Command.outcome_logging] at hr
    rw [settingsFor_ok hs]
    exact Or.inr (hr.after _)

end

def settingsTree (text : String) : FileTree where
  entries := [(["c.toml"], .file (.text text))]
  workingDirectory := []

def namedSettingsCall : Invocation where
  config := some "c.toml"
  info := false
  command := .members "X" {} true

theorem runInvocation_envelope_loaded :
    CommandLine.parse ["-c", "c.toml", "members", "X", "--json"] = .ok namedSettingsCall ∧
      ∃ report after,
        (runInvocation treeHost [] namedSettingsCall).run (settingsTree "version = 2") = (report, after) ∧
          report.Carries ((namedSettingsCall.outcome treeHost []).run (settingsTree "version = 2")).1 := by
  refine ⟨by decide +kernel, ?_⟩
  have loads : ((Settings.loadFrom treeHost [] "c.toml").run (settingsTree "version = 2")).1.isOk = true := by
    decide +kernel
  rcases h : (runInvocation treeHost [] namedSettingsCall).run (settingsTree "version = 2") with
    ⟨report, after⟩
  obtain ⟨path, e, s₁, hp, hl, -⟩ | hr := runInvocation_envelope rfl h
  · cases hp
    rw [hl] at loads
    cases loads
  · exact ⟨report, after, rfl, hr⟩

theorem runInvocation_envelope_unusable :
    CommandLine.parse ["-c", "c.toml", "members", "X", "--json"] = .ok namedSettingsCall ∧
      namedSettingsCall.command.forScripts = true ∧
      ∃ report after,
        (runInvocation treeHost [] namedSettingsCall).run (settingsTree "version = \"x\"") = (report, after) ∧
          ¬∃ e : Envelope, report.outputText = e.text ++ "\n" := by
  refine ⟨by decide +kernel, rfl, ?_⟩
  have silent : ((runInvocation treeHost [] namedSettingsCall).run
      (settingsTree "version = \"x\"")).1.outputText = "" := by
    decide +kernel
  rcases h : (runInvocation treeHost [] namedSettingsCall).run (settingsTree "version = \"x\"") with
    ⟨report, after⟩
  rw [h] at silent
  refine ⟨report, after, rfl, ?_⟩
  rintro ⟨e, he⟩
  have hlength := congrArg String.length (silent.symm.trans he)
  rw [String.length_append] at hlength
  exact Nat.succ_ne_zero _ hlength.symm

end ApiReference
