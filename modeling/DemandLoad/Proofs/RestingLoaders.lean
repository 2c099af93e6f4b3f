import DemandLoad.Proofs.MachineSoundness

namespace DemandLoad

namespace Loader

def buffers (loader : Loader) : List TargetFailure × List LoadError :=
  (loader.failures, loader.orphaned)

variable (loader : Loader)

@[simp] theorem buffers_announce (transition : Transition) :
    (loader.announce transition).buffers = loader.buffers := rfl

@[simp] theorem buffers_dropBehind (name : String) :
    (loader.dropBehind name).buffers = loader.buffers := rfl

@[simp] theorem buffers_forget (name : String) : (loader.forget name).buffers = loader.buffers := rfl

@[simp] theorem buffers_defer (name blocker : String) :
    (loader.defer name blocker).buffers = loader.buffers := by
  simp only [defer]
  split <;> rfl

@[simp] theorem buffers_remember (name : String) :
    (loader.remember name).buffers = loader.buffers := by
  unfold remember
  split <;> rfl

@[simp] theorem buffers_declare (name : String) (dependencies : List String) (target : Target) :
    (loader.declare name dependencies target).buffers = loader.buffers := by
  unfold declare
  repeat' split
  all_goals rfl

theorem buffers_noteTarget (name : String) (target : Option Target) :
    (loader.noteTarget name target).buffers = loader.buffers := by
  cases target with
  | none => rfl
  | some target => cases target <;> rfl

theorem orphaned_failTarget (name cause : String) :
    (loader.failTarget name cause).1.orphaned = loader.orphaned := by
  unfold failTarget
  split <;> rfl

theorem buffers_giveUpUnresolved : loader.giveUpUnresolved.1.buffers = loader.buffers := by
  unfold giveUpUnresolved
  split <;> rfl

structure Resting (loader : Loader) : Prop where
  queue : ∀ name, loader.tracker.queue name = []
  unresolved : loader.unresolved = []
  buffers : loader.buffers = ([], [])
  failed_iff : ∀ name, loader.isFailed name = true ↔ loader.status name = .loading

theorem Resting.create (config : Config) (observed : Bool) : (Loader.create config observed).Resting := by
  refine ⟨fun _ => rfl, rfl, rfl, ?_⟩
  intro name
  constructor
  · intro failed
    cases failed
  · intro loading
    cases loading

theorem Resting.of_same {next : Loader} (resting : loader.Resting)
    (tracker : next.tracker = loader.tracker) (unresolved : next.unresolved = loader.unresolved)
    (buffers : next.buffers = loader.buffers) : next.Resting := by
  refine ⟨tracker ▸ resting.queue, unresolved.trans resting.unresolved,
    buffers.trans resting.buffers, ?_⟩
  intro name
  rw [isFailed, status, tracker]
  exact resting.failed_iff name

end Loader

namespace Machine

variable {machine next : Machine} {loader : Loader}

def Cleared (machine : Machine) : Prop :=
  ∀ answer, machine.control = .done answer →
    machine.loader.unresolved = [] ∧ machine.loader.buffers = ([], [])

theorem Cleared.step (step : Step machine next) : next.Cleared := by
  intro answer control
  cases step with
  | conclude settled =>
      exact ⟨Loader.unresolved_giveUpUnresolved _, Loader.buffers_giveUpUnresolved _⟩
  | _ => cases control

theorem Sound.of_resting {frames : List Frame} {control : Control} (resting : loader.Resting)
    (stacked : Stacked ⟨loader, frames, control⟩) (idle : running ⟨loader, frames, control⟩ = [])
    (unanswered : ∀ outcome, control ≠ .answered (.ok outcome))
    (fresh : ∀ name waiting, control ≠ .resume name waiting)
    (resuming : ∀ name rest, .resuming name rest ∉ frames) : Sound ⟨loader, frames, control⟩ where
  stacked := stacked
  active := by
    refine ⟨by simp [idle], ?_, fun name => (resting.failed_iff name).mp⟩
    intro name
    simp only [idle, List.not_mem_nil, false_iff, not_and, Bool.not_eq_false]
    exact (resting.failed_iff name).mpr
  drained name _ := resting.queue name
  resumed name waiting control := absurd control (fresh name waiting)
  resuming name rest member := absurd member (resuming name rest)
  rooted blocker waiter queued := by
    rw [resting.queue blocker] at queued
    cases queued
  answered outcome control := absurd control (unanswered outcome)

theorem Sound.start (resting : loader.Resting) (action : Action) :
    (Machine.start loader action).Sound := by
  have stacked := Stacked.start loader action
  cases action with
  | register name dependencies target =>
      refine .of_resting ?_ stacked rfl (by simp) (by simp) (by simp)
      exact resting.of_same _ (loader.tracker_declare ..) (loader.unresolved_declare ..)
        (loader.buffers_declare ..)
  | request name strict => exact .of_resting resting stacked rfl (by simp) (by simp) (by simp)
  | requestAll start strict => exact .of_resting resting stacked rfl (by simp) (by simp) (by simp)
  | fail message => exact .of_resting resting stacked rfl (by simp) (by simp) (by simp)
  | query query => exact .of_resting resting stacked rfl (by simp) (by simp) (by simp)

theorem Cleared.start (resting : loader.Resting) (action : Action) :
    (Machine.start loader action).Cleared := by
  intro answer control
  cases action with
  | register name dependencies target =>
      exact ⟨(loader.unresolved_declare ..).trans resting.unresolved,
        (loader.buffers_declare ..).trans resting.buffers⟩
  | request => cases control
  | requestAll => cases control
  | fail | query => exact ⟨resting.unresolved, resting.buffers⟩

theorem Sound.resting {answer : Answer} (sound : machine.Sound) (cleared : machine.Cleared)
    (control : machine.control = .done answer) : machine.loader.Resting := by
  obtain ⟨unresolved, buffers⟩ := cleared answer control
  have frames : machine.frames = [] := sound.stacked.bottom (by rw [control]; trivial)
  have idle : machine.running = [] := by rw [running, control, frames]; rfl
  have roots : machine.roots = [] := by rw [Machine.roots, agenda, control, frames, unresolved]; rfl
  refine ⟨?_, unresolved, buffers, ?_⟩
  · intro blocker
    apply List.eq_nil_iff_forall_not_mem.mpr
    intro waiter queued
    have pending := sound.rooted blocker waiter queued
    rw [Pending, roots] at pending
    exact Behind.not_of_no_roots pending
  · intro name
    have known := sound.active.mem_running name
    rw [idle] at known
    refine ⟨sound.active.loading_of_failed name, ?_⟩
    intro loading
    simpa [loading] using known

end Machine

namespace Loader

variable {loader : Loader}

theorem Resting.perform (resting : loader.Resting) (action : Action) :
    (loader.perform action).1.Resting := by
  obtain ⟨count, answer, control, last⟩ := Machine.exists_done loader action
  have sound := Machine.after_induction (motive := Machine.Sound) _ (Machine.Sound.start resting action)
    (fun _ _ sound step => sound.step step) count
  have cleared := Machine.after_induction (motive := Machine.Cleared) _
    (Machine.Cleared.start resting action) (fun _ _ _ step => .step step) count
  change (Machine.start loader action).run.loader.Resting
  rw [last]
  exact sound.resting cleared control

/-- Between passes nothing waits, and nothing is to be reported. -/
theorem Reachable.resting (reachable : loader.Reachable) : loader.Resting := by
  induction reachable with
  | create config observed => exact .create config observed
  | perform _ action ih => exact ih.perform action

end Loader

theorem Pass.sound (pass : Pass) (moment : Nat) : (pass.state moment).Sound :=
  pass.induction (.start pass.reachable.resting pass.action) (fun _ _ sound step => sound.step step) moment

namespace Pass

theorem queue_zero (pass : Pass) (blocker : String) : (pass.state 0).loader.tracker.queue blocker = [] := by
  rw [pass.tracker_start, pass.reachable.resting.queue]

theorem unresolved_zero (pass : Pass) : (pass.state 0).loader.unresolved = [] := by
  obtain ⟨loader, reachable, action⟩ := pass
  cases action with
  | register => exact (Loader.unresolved_declare ..).trans reachable.resting.unresolved
  | request | requestAll | fail | query => exact reachable.resting.unresolved

end Pass

end DemandLoad
