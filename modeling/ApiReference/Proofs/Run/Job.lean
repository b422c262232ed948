import ApiReference.Proofs.Files.Host
import ApiReference.Run.Command
import Mathlib.Tactic

/-! Jobs over a state: what one gives, and how it ends. -/

namespace ApiReference

variable {σ α β γ : Type}

namespace Job

/-! ### Results -/

def result (job : Job (StateM σ) α) (log : List LogRecord) (s : σ) : Except Failure α :=
  ((job.run.run log).run s).1.1

lemma result_bind_map {job : Job (StateM σ) α} {k : α → Job (StateM σ) β}
    {k' : α → Job (StateM σ) γ} {f : β → γ}
    (h : ∀ a log s, (k' a).result log s = ((k a).result log s).map f) (log : List LogRecord) (s : σ) :
    (job >>= k').result log s = ((job >>= k).result log s).map f := by
  simp only [result, ExceptT.run_bind, StateT.run_bind]
  generalize (job.run.run log).run s = r
  obtain ⟨⟨result, log'⟩, s'⟩ := r
  cases result with
  | ok a => exact h a log' s'
  | error failure => rfl

lemma result_map (job : Job (StateM σ) α) (f : α → β) (log : List LogRecord) (s : σ) :
    (f <$> job).result log s = (job.result log s).map f := by
  rw [result, result, ExceptT.run_map, StateT.run_map, StateT.run_map]
  rfl

lemma finish_result {job : Job (StateM σ) α} {ended : Finished α} {s s' : σ}
    (h : (Job.finish job).run s = (ended, s')) : ended.result = job.result [] s := by
  cases h
  rfl

/-! ### Ends -/

def Ensures (job : Job (StateM σ) α) (s : σ) (done : α → σ → Prop) (failed : σ → Prop) : Prop :=
  ∀ log, match ((job.run.run log).run s).1.1 with
    | .ok a => done a ((job.run.run log).run s).2
    | .error _ => failed ((job.run.run log).run s).2

namespace Ensures

variable {job : Job (StateM σ) α} {s : σ} {done : α → σ → Prop} {failed : σ → Prop}

lemma mono {done' : α → σ → Prop} {failed' : σ → Prop} (h : job.Ensures s done failed)
    (hd : ∀ a s', done a s' → done' a s') (hf : ∀ s', failed s' → failed' s') :
    job.Ensures s done' failed' := by
  intro log
  have hl := h log
  generalize (job.run.run log).run s = r at hl ⊢
  obtain ⟨⟨result, log'⟩, s'⟩ := r
  cases result with
  | ok a => exact hd a s' hl
  | error failure => exact hf s' hl

lemma pure {a : α} (h : done a s) : Ensures (Pure.pure a) s done failed := fun _ => h

lemma throw {failure : Failure} (h : failed s) :
    Ensures (MonadExcept.throw failure : Job (StateM σ) α) s done failed := fun _ => h

lemma bind {k : α → Job (StateM σ) β} {done : β → σ → Prop}
    (h : job.Ensures s (fun a s' => (k a).Ensures s' done failed) failed) :
    (job >>= k).Ensures s done failed := by
  intro log
  have hl := h log
  rw [ExceptT.run_bind, StateT.run_bind, StateT.run_bind]
  generalize (job.run.run log).run s = r at hl ⊢
  obtain ⟨⟨result, log'⟩, s'⟩ := r
  cases result with
  | ok a => exact hl log'
  | error failure => exact hl

lemma note {records : List LogRecord} {done : Unit → σ → Prop} (h : done () s) :
    (ApiReference.note records).Ensures s done failed := fun _ => h

lemma lift {x : StateT (List LogRecord) (StateM σ) α}
    (h : ∀ log, done ((x.run log).run s).1.1 ((x.run log).run s).2) :
    Ensures (ExceptT.lift x) s done failed := h

lemma ask {action : StateM σ α} (h : done (action.run s).1 (action.run s).2) :
    Ensures (liftM (liftM action : StateT (List LogRecord) (StateM σ) α)) s done failed := fun _ => h

lemma onFile {path : String} {action : StateM σ (Except FileFault α)}
    (hd : ∀ a s', action.run s = (.ok a, s') → done a s')
    (hf : ∀ fault s', action.run s = (.error fault, s') → failed s') :
    (ApiReference.onFile path action).Ensures s done failed := by
  refine bind (ask ?_)
  rcases h : action.run s with ⟨result, s'⟩
  cases result with
  | ok a => exact pure (hd a s' h)
  | error fault => exact throw (hf fault s' h)

lemma finish {s' : σ} {ended : Finished α} (h : job.Ensures s done failed)
    (hr : (Job.finish job).run s = (ended, s')) :
    (∃ failure, ended.result = .error failure ∧ failed s') ∨ ∃ a, ended.result = .ok a ∧ done a s' := by
  have hl := h []
  obtain ⟨⟨result, log⟩, s₁, hj, hr⟩ := exists_of_run_bind hr
  cases hr
  rw [hj] at hl
  cases result with
  | ok a => exact Or.inr ⟨a, rfl, hl⟩
  | error failure => exact Or.inl ⟨failure, rfl, hl⟩

lemma mapM {γ : Type} {view : σ → γ} {job : β → Job (StateM σ) α} {made : γ → β → α → Prop}
    (h : ∀ x s, (job x).Ensures s (fun a s' => view s' = view s ∧ made (view s) x a)
      fun s' => view s' = view s) (xs : List β) (s : σ) :
    (xs.mapM job).Ensures s
      (fun as s' => view s' = view s ∧ List.Forall₂ (made (view s)) xs as)
      fun s' => view s' = view s := by
  induction xs generalizing s with
  | nil => exact pure ⟨rfl, .nil⟩
  | cons x xs ih =>
    rw [List.mapM_cons]
    refine ((h x s).mono ?_ fun _ hs => hs).bind
    rintro a s₁ ⟨h₁, ha⟩
    refine ((ih s₁).mono ?_ fun _ hs => hs.trans h₁).bind
    rintro as s₂ ⟨h₂, has⟩
    rw [h₁] at h₂ has
    exact pure ⟨h₂, .cons ha has⟩

end Ensures

end Job

end ApiReference
