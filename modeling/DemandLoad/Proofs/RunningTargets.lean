import DemandLoad.Proofs.StackShape
import DemandLoad.Proofs.WaitingBehind

/-!
The running targets are told by the stack, and they are exactly the libraries that are loading and have not
failed. So a load that ends is never refused.
-/

namespace DemandLoad

def Frame.running : Frame → List String
  | .requesting caller _ | .sweeping caller _ _ _ => caller.library?.toList
  | .walking _ _ _ | .resuming _ _ | .settling _ _ => []

def Control.running : Control → List String
  | .perform library _ => [library]
  | .sweep caller _ _ _ => caller.library?.toList
  | .drive _ | .walk _ _ | .resume _ _ | .settle _ _ | .answered _ | .done _ => []

/-- The libraries whose targets are part way through, innermost first. -/
def Machine.running (machine : Machine) : List String :=
  machine.control.running ++ machine.frames.flatMap Frame.running

/-- Whether two trackers agree on all but their queues. -/
structure Tracker.SameProgress (before after : Tracker) : Prop where
  statuses : after.statuses = before.statuses
  failed : after.failed = before.failed
  loadOrder : after.loadOrder = before.loadOrder

namespace Tracker.SameProgress

variable {before after : Tracker}

theorem refl (tracker : Tracker) : SameProgress tracker tracker := ⟨rfl, rfl, rfl⟩

theorem symm (same : SameProgress before after) : SameProgress after before :=
  ⟨same.statuses.symm, same.failed.symm, same.loadOrder.symm⟩

theorem trans {between : Tracker} (first : SameProgress before between)
    (second : SameProgress between after) : SameProgress before after :=
  ⟨second.statuses.trans first.statuses, second.failed.trans first.failed,
    second.loadOrder.trans first.loadOrder⟩

theorem status (same : SameProgress before after) (name : String) :
    after.status name = before.status name := by
  simp only [Tracker.status, same.statuses]

theorem isFailed (same : SameProgress before after) (name : String) :
    after.isFailed name = before.isFailed name := by
  simp only [Tracker.isFailed, same.failed]

theorem defer (tracker : Tracker) (name blocker : String) :
    SameProgress tracker (tracker.defer name blocker).1 :=
  ⟨statuses_defer .., failed_defer .., loadOrder_defer ..⟩

theorem drop (tracker : Tracker) (roots : List String) :
    SameProgress tracker (tracker.drop roots).1 := ⟨rfl, rfl, rfl⟩

end Tracker.SameProgress

namespace Tracker

def finished (tracker : Tracker) (name : String) : Tracker :=
  { tracker.setStatus name .loaded with loadOrder := tracker.loadOrder ++ [name] }

def failing (tracker : Tracker) (name : String) : Tracker :=
  { tracker with failed := tracker.failed ++ [name] }

theorem finish_eq_ok {tracker next : Tracker} {name : String} {waiting : List String}
    (ended : tracker.finish name = .ok (next, waiting)) :
    tracker.status name = .loading ∧ tracker.isFailed name = false ∧
      next = { tracker.finished name with queues := tracker.queues.erase name } ∧
      waiting = tracker.queue name := by
  unfold finish at ended
  split at ended
  case isTrue => cases ended
  case isFalse sound =>
    split at ended
    case isTrue loading => cases ended; exact ⟨loading, Bool.eq_false_iff.mpr sound, rfl, rfl⟩
    case isFalse => cases ended

theorem queue_finish {tracker next : Tracker} {name : String} {waiting : List String}
    (ended : tracker.finish name = .ok (next, waiting)) (other : String) :
    next.queue other = if other = name then [] else tracker.queue other := by
  obtain ⟨-, -, rfl, -⟩ := finish_eq_ok ended
  exact queueIn_erase tracker.queues name other

theorem status_finish {tracker next : Tracker} {name : String} {waiting : List String}
    (ended : tracker.finish name = .ok (next, waiting)) (other : String) :
    next.status other = if other = name then .loaded else tracker.status other := by
  obtain ⟨-, -, rfl, -⟩ := finish_eq_ok ended
  exact status_setStatus tracker name other .loaded

theorem finish_ne_error {tracker : Tracker} {name : String} (loading : tracker.status name = .loading)
    (sound : tracker.isFailed name = false) (refusal : Refusal) :
    tracker.finish name ≠ .error refusal := by
  simp [finish, loading, sound]

theorem fail_eq_ok {tracker : Tracker} {name : String} (loading : tracker.status name = .loading)
    (sound : tracker.isFailed name = false) : tracker.fail name = .ok ((tracker.failing name).drop [name]) := by
  simp [fail, loading, sound, failing]

theorem SameProgress.status_begun {before after : Tracker} {started : String}
    (same : (before.setStatus started .loading).SameProgress after) (name : String) :
    after.status name = if name = started then .loading else before.status name := by
  rw [same.status, status_setStatus]

theorem SameProgress.status_ended {before after : Tracker} {ending : String}
    (same : (before.finished ending).SameProgress after) (name : String) :
    after.status name = if name = ending then .loaded else before.status name := by
  rw [same.status]
  exact status_setStatus before ending name .loaded

theorem SameProgress.isFailed_failed {before after : Tracker} {failing : String}
    (same : (before.failing failing).SameProgress after) (name : String) :
    after.isFailed name = true ↔ before.isFailed name = true ∨ name = failing := by
  rw [same.isFailed]
  simp [Tracker.isFailed, Tracker.failing]

end Tracker

namespace Loader

theorem failTarget_eq (loader : Loader) (name cause : String)
    (loading : loader.status name = .loading) (sound : loader.isFailed name = false) :
    (loader.failTarget name cause).1.tracker = ((loader.tracker.failing name).drop [name]).1 ∧
      (loader.failTarget name cause).1.failures = loader.failures ++ [⟨name, cause⟩] ∧
      (loader.failTarget name cause).2 = .loadFailed ⟨name, cause⟩ := by
  unfold failTarget
  rw [Tracker.fail_eq_ok loading sound]
  exact ⟨rfl, rfl, rfl⟩

theorem tracker_noteTarget (loader : Loader) (name : String) (target : Option Target) :
    (loader.noteTarget name target).tracker = loader.tracker := by
  cases target with
  | none => rfl
  | some target => cases target <;> rfl

theorem unresolved_noteTarget (loader : Loader) (name : String) (target : Option Target) :
    (loader.noteTarget name target).unresolved = loader.unresolved := by
  cases target with
  | none => rfl
  | some target => cases target <;> rfl

theorem tracker_giveUpUnresolved (loader : Loader) :
    loader.giveUpUnresolved.1.tracker = (loader.tracker.drop loader.unresolved).1 := by
  unfold giveUpUnresolved
  split
  case h_1 none_left => rw [none_left, Tracker.drop, Tracker.dropFrom]
  case h_2 first others some_left => rw [some_left]; rfl

structure Matches (one other : Loader) : Prop where
  registry : other.registry = one.registry
  progress : one.tracker.SameProgress other.tracker

namespace Matches

variable {one other : Loader} (same : one.Matches other)
include same

theorem status (name : String) : other.status name = one.status name := same.progress.status name

theorem isFailed (name : String) : other.isFailed name = one.isFailed name := same.progress.isFailed name

theorem loaded : other.loaded = one.loaded := same.progress.loadOrder

theorem dependencies (name : String) : other.dependencies name = one.dependencies name := by
  rw [Loader.dependencies, same.registry, Loader.dependencies]

theorem symm : other.Matches one := ⟨same.registry.symm, same.progress.symm⟩

theorem trans {third : Loader} (next : other.Matches third) : one.Matches third :=
  ⟨next.registry.trans same.registry, same.progress.trans next.progress⟩

end Matches

end Loader

namespace Machine

variable {machine next : Machine} {loader : Loader} {frames : List Frame} {name blocker : String}

theorem matches_conclude (machine : Machine) (verdict : Verdict) :
    machine.loader.Matches (machine.conclude verdict).loader := by
  refine ⟨Loader.registry_giveUpUnresolved _, ?_⟩
  have tracker : (machine.conclude verdict).loader.tracker =
      (machine.loader.tracker.drop machine.loader.unresolved).1 := Loader.tracker_giveUpUnresolved _
  rw [tracker]
  exact .drop _ _

theorem registry_conclude (machine : Machine) (verdict : Verdict) :
    (machine.conclude verdict).loader.registry = machine.loader.registry :=
  (machine.matches_conclude verdict).registry

theorem status_conclude (machine : Machine) (verdict : Verdict) (name : String) :
    (machine.conclude verdict).loader.status name = machine.loader.status name :=
  (machine.matches_conclude verdict).status name

theorem isFailed_conclude (machine : Machine) (verdict : Verdict) (name : String) :
    (machine.conclude verdict).loader.isFailed name = machine.loader.isFailed name :=
  (machine.matches_conclude verdict).isFailed name

/-- How a step changes the statuses, and with them the running targets. -/
inductive Progress : Machine → Machine → Prop
  | still {machine next : Machine} (same : machine.loader.tracker.SameProgress next.loader.tracker)
      (running : next.running = machine.running) : Progress machine next
  | begun {machine next : Machine} (name : String) (control : machine.control = .walk name [])
      (idle : machine.loader.status name = .unloaded)
      (same : (machine.loader.tracker.setStatus name .loading).SameProgress next.loader.tracker)
      (running : next.running = name :: machine.running) : Progress machine next
  | ended {machine next : Machine} (name : String) (control : machine.control = .perform name [])
      (same : (machine.loader.tracker.finished name).SameProgress next.loader.tracker)
      (drained : next.loader.tracker.queue name = [])
      (running : machine.running = name :: next.running) : Progress machine next
  | failed {machine next : Machine} (name : String)
      (same : (machine.loader.tracker.failing name).SameProgress next.loader.tracker)
      (running : machine.running = name :: next.running)
      (drained : next.loader.tracker.queue name = []) : Progress machine next

theorem running_ne {started ending : String} (more : next.running = started :: machine.running) :
    machine.running ≠ ending :: next.running := by
  intro less
  have longer := congrArg List.length more
  have shorter := congrArg List.length less
  simp only [List.length_cons] at longer shorter
  omega

theorem Progress.same_of_running (progress : Progress machine next) (running : next.running = machine.running) :
    machine.loader.tracker.SameProgress next.loader.tracker := by
  cases progress with
  | still same => exact same
  | begun _ _ _ _ more => exact absurd (running.symm.trans more) (by simp)
  | ended _ _ _ _ less | failed _ _ less => exact absurd (running.trans less) (by simp)

theorem Progress.begun_of_running (progress : Progress machine next)
    (running : next.running = name :: machine.running) : machine.loader.status name = .unloaded ∧
      (machine.loader.tracker.setStatus name .loading).SameProgress next.loader.tracker := by
  cases progress with
  | still _ same => exact absurd (same.symm.trans running) (by simp)
  | begun _ _ idle same more =>
      cases (List.cons.inj (more.symm.trans running)).1
      exact ⟨idle, same⟩
  | ended _ _ _ _ less | failed _ _ less => exact absurd less (running_ne running)

theorem Progress.closed_of_running (progress : Progress machine next)
    (running : machine.running = name :: next.running) :
    (machine.loader.tracker.finished name).SameProgress next.loader.tracker ∨
      (machine.loader.tracker.failing name).SameProgress next.loader.tracker := by
  cases progress with
  | still _ same => exact absurd (same.trans running) (by simp)
  | begun _ _ _ _ more => exact absurd running (running_ne more)
  | ended _ _ same _ less =>
      cases (List.cons.inj (less.symm.trans running)).1
      exact .inl same
  | failed _ same less =>
      cases (List.cons.inj (less.symm.trans running)).1
      exact .inr same

structure Active (machine : Machine) : Prop where
  nodup : machine.running.Nodup
  mem_running : ∀ name, name ∈ machine.running ↔
    machine.loader.status name = .loading ∧ machine.loader.isFailed name = false
  loading_of_failed : ∀ name, machine.loader.isFailed name = true →
    machine.loader.status name = .loading

theorem Answers.running {library : String} {action : Action} {rest : List Action} {answer : Answer}
    (reason : Answers machine frames library action rest answer) :
    machine.running = library :: frames.flatMap Frame.running := by
  cases reason <;> rfl

theorem Succeeds.progress {outcome : Outcome} (reason : Succeeds machine loader frames name outcome) :
    Progress machine ⟨loader, frames, .answered (.ok outcome)⟩ := by
  cases reason <;> exact .still (.refl _) rfl

theorem Postpones.running_eq (reason : Postpones machine loader frames name blocker) :
    running ⟨loader.defer name blocker, frames, .answered (.ok .deferred)⟩ = machine.running := by
  cases reason <;> rfl

theorem Postpones.progress (reason : Postpones machine loader frames name blocker) :
    Progress machine ⟨loader.defer name blocker, frames, .answered (.ok .deferred)⟩ := by
  cases reason
  all_goals
    refine .still ?_ rfl
    rw [Loader.tracker_defer]
    exact .defer _ _ _

theorem Remembers.progress (reason : Remembers machine loader frames name) :
    Progress machine ⟨loader.remember name, frames, .answered (.ok .deferred)⟩ := by
  cases reason
  all_goals
    refine .still ?_ rfl
    rw [Loader.tracker_remember]
    exact .refl _

theorem Active.not_refused {refusal : Refusal}
    (active : Active ⟨loader, frames, .perform name []⟩) :
    loader.tracker.finish name ≠ .error refusal := by
  have busy := (active.mem_running name).mp (List.mem_cons_self ..)
  exact Tracker.finish_ne_error busy.1 busy.2 refusal

theorem Rejects.progress {error : LoadError} (active : Active machine)
    (reason : Rejects machine loader frames name error) :
    Progress machine ⟨loader.dropBehind name, frames, .answered (.error error)⟩ := by
  cases reason
  case refused refusal unfinished => exact absurd unfinished active.not_refused
  all_goals exact .still (.drop _ _) rfl

theorem Active.of_answers {library : String} {action : Action} {rest : List Action} {answer : Answer}
    (active : Active machine) (reason : Answers machine frames library action rest answer) :
    machine.loader.status library = .loading ∧ machine.loader.isFailed library = false := by
  apply (active.mem_running library).mp
  rw [reason.running]
  exact List.mem_cons_self ..

theorem Active.failTarget_eq {library : String} {action : Action} {rest : List Action}
    {answer : Answer} (active : Active machine)
    (reason : Answers machine frames library action rest answer) (event : Event) (cause : String) :
    ((machine.loader.note event).failTarget library cause).1.tracker =
        ((machine.loader.tracker.failing library).drop [library]).1 ∧
      ((machine.loader.note event).failTarget library cause).1.failures =
        machine.loader.failures ++ [⟨library, cause⟩] ∧
      ((machine.loader.note event).failTarget library cause).2 = .loadFailed ⟨library, cause⟩ :=
  have busy := active.of_answers reason
  Loader.failTarget_eq (machine.loader.note event) library cause busy.1 busy.2

theorem Step.progress (active : Active machine) (step : Step machine next) : Progress machine next := by
  cases step with
  | succeed reason => exact reason.progress
  | reject reason => exact reason.progress active
  | postpone reason => exact reason.progress
  | remember reason => exact reason.progress
  | advance reason => cases reason <;> exact .still (.refl _) rfl
  | begin idle taken =>
      refine .begun _ rfl idle ?_ rfl
      rw [Loader.tracker_noteTarget]
      exact .refl _
  | finish finished =>
      have drained := Tracker.queue_finish finished
      obtain ⟨-, -, rfl, -⟩ := Tracker.finish_eq_ok finished
      exact .ended _ rfl ⟨rfl, rfl, rfl⟩ ((drained _).trans (if_pos rfl)) rfl
  | declare =>
      refine .still ?_ rfl
      rw [Loader.tracker_note, Loader.tracker_declare]
      exact .refl _
  | goOn reason sound => exact .still (.refl _) reason.running.symm
  | fail reason failing =>
      refine .failed _ ?_ reason.running ?_
      · rw [Loader.tracker_dropBehind, (active.failTarget_eq reason _ _).1]
        exact ⟨rfl, rfl, rfl⟩
      · exact Tracker.queue_drop_of_behind _ _ _ (.root (List.mem_singleton.mpr rfl))
  | conclude =>
      refine .still ?_ rfl
      simp only [Machine.conclude, goto, withLoader, Loader.tracker_giveUpUnresolved]
      exact .drop _ _
  | resumedOne | settledOne =>
      refine .still ?_ rfl
      rw [Loader.tracker_orphan]
      exact .refl _
  | enter | descend | call | callAll | resumeNext | sweepNext | sweepEnd | settleNext | settleRound
    | returned | sweptOne => exact .still (.refl _) rfl

theorem Active.sound_of_idle (active : Active machine) (idle : machine.loader.status name = .unloaded) :
    machine.loader.isFailed name = false := by
  apply Bool.eq_false_iff.mpr
  intro failed
  rw [active.loading_of_failed name failed] at idle
  cases idle

theorem Active.failed_of_still (active : Active machine) (still : machine.running = [])
    (loading : machine.loader.status name = .loading) : machine.loader.isFailed name = true := by
  apply Classical.byContradiction
  intro sound
  have runs := (active.mem_running name).mpr ⟨loading, Bool.eq_false_iff.mpr sound⟩
  rw [still] at runs
  cases runs

theorem Active.begun {started : String} (active : Active machine)
    (idle : machine.loader.status started = .unloaded)
    (same : (machine.loader.tracker.setStatus started .loading).SameProgress next.loader.tracker)
    (running : next.running = started :: machine.running) : Active next := by
  have status : ∀ name, next.loader.status name =
      if name = started then .loading else machine.loader.status name := same.status_begun
  have failed : ∀ name, next.loader.isFailed name = machine.loader.isFailed name := same.isFailed
  have sound := active.sound_of_idle idle
  refine ⟨?_, ?_, ?_⟩
  · rw [running]
    refine List.nodup_cons.mpr ⟨?_, active.nodup⟩
    intro member
    have loading := ((active.mem_running started).mp member).1
    rw [idle] at loading
    cases loading
  · intro name
    rw [running, List.mem_cons, active.mem_running, status, failed]
    by_cases equal : name = started <;> simp [equal, sound]
  · intro name broken
    rw [failed] at broken
    rw [status]
    split
    · rfl
    · exact active.loading_of_failed name broken

theorem Active.ended {ending : String} (active : Active machine)
    (same : (machine.loader.tracker.finished ending).SameProgress next.loader.tracker)
    (running : machine.running = ending :: next.running) : Active next := by
  have status : ∀ name, next.loader.status name =
      if name = ending then .loaded else machine.loader.status name := same.status_ended
  have failed : ∀ name, next.loader.isFailed name = machine.loader.isFailed name := same.isFailed
  have distinct := List.nodup_cons.mp (running ▸ active.nodup)
  have busy := (active.mem_running ending).mp (running ▸ List.mem_cons_self ..)
  refine ⟨distinct.2, ?_, ?_⟩
  · intro name
    have known := active.mem_running name
    rw [running, List.mem_cons] at known
    rw [status, failed]
    by_cases equal : name = ending
    · simp [equal, distinct.1]
    · simpa [equal] using known
  · intro name broken
    rw [failed] at broken
    have apart : name ≠ ending := by
      rintro rfl
      simp [busy.2] at broken
    rw [status, if_neg apart]
    exact active.loading_of_failed name broken

theorem Active.failed {failing : String} (active : Active machine)
    (same : (machine.loader.tracker.failing failing).SameProgress next.loader.tracker)
    (running : machine.running = failing :: next.running) : Active next := by
  have status : ∀ name, next.loader.status name = machine.loader.status name := same.status
  have failed : ∀ name, next.loader.isFailed name = true ↔
      machine.loader.isFailed name = true ∨ name = failing := same.isFailed_failed
  have distinct := List.nodup_cons.mp (running ▸ active.nodup)
  have busy := (active.mem_running failing).mp (running ▸ List.mem_cons_self ..)
  refine ⟨distinct.2, ?_, ?_⟩
  · intro name
    have known := active.mem_running name
    rw [running, List.mem_cons] at known
    rw [status, ← Bool.not_eq_true, failed]
    by_cases equal : name = failing
    · simp [equal, distinct.1]
    · simpa [equal] using known
  · intro name broken
    rw [status]
    rcases (failed name).mp broken with before | rfl
    · exact active.loading_of_failed name before
    · exact busy.1

theorem Active.step (active : Active machine) (step : Step machine next) : Active next := by
  cases step.progress active with
  | still same running =>
      refine ⟨running ▸ active.nodup, ?_, ?_⟩
      · intro name
        rw [running, Loader.status, same.status, Loader.isFailed, same.isFailed]
        exact active.mem_running name
      · intro name
        rw [Loader.status, same.status, Loader.isFailed, same.isFailed]
        exact active.loading_of_failed name
  | begun name control idle same running => exact active.begun idle same running
  | ended name control same drained running => exact active.ended same running
  | failed name same running => exact active.failed same running

/-- Statuses only move forward, and failures are never undone. -/
theorem Step.loaded_mono (active : Active machine) (step : Step machine next)
    (loaded : machine.loader.status name = .loaded) : next.loader.status name = .loaded := by
  cases step.progress active with
  | still same running => exact (same.status name).trans loaded
  | begun started control idle same running =>
      have apart : name ≠ started := by
        rintro rfl
        rw [idle] at loaded
        cases loaded
      exact (same.status_begun name).trans ((if_neg apart).trans loaded)
  | ended ending control same drained running =>
      refine (same.status_ended name).trans ?_
      split
      · rfl
      · exact loaded
  | failed failing same running => exact (same.status name).trans loaded

theorem Step.failed_mono (active : Active machine) (step : Step machine next)
    (failed : machine.loader.isFailed name = true) : next.loader.isFailed name = true := by
  cases step.progress active with
  | still same running => exact (same.isFailed name).trans failed
  | begun started control idle same running => exact (same.isFailed name).trans failed
  | ended ending control same drained running => exact (same.isFailed name).trans failed
  | failed failing same running => exact (same.isFailed_failed name).mpr (.inl failed)

end Machine

end DemandLoad
