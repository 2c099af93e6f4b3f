import DemandLoad.Proofs.DeclaredRecords
import DemandLoad.Proofs.OutermostPurpose
import DemandLoad.Proofs.TrackerOperations
import Mathlib.Computability.Primrec.List
import Mathlib.Data.List.Permutation

-- The imports of Mathlib hold the equations of `List.lookup` and `Prod.snd` that `cbv` evaluates with.

namespace DemandLoad

namespace Loader

def setup (loader : Loader) : Config × Bool := (loader.config, loader.observed)

variable (loader : Loader)

@[simp] theorem setup_note (event : Event) : (loader.note event).setup = loader.setup := rfl

@[simp] theorem setup_announce (transition : Transition) :
    (loader.announce transition).setup = loader.setup := rfl

@[simp] theorem setup_dropBehind (name : String) : (loader.dropBehind name).setup = loader.setup := rfl

@[simp] theorem setup_forget (name : String) : (loader.forget name).setup = loader.setup := rfl

@[simp] theorem setup_defer (name blocker : String) : (loader.defer name blocker).setup = loader.setup := by
  simp only [defer]
  split <;> rfl

@[simp] theorem setup_remember (name : String) : (loader.remember name).setup = loader.setup := by
  unfold remember
  split <;> rfl

@[simp] theorem setup_orphan (result : Except LoadError Outcome) :
    (loader.orphan result).setup = loader.setup := by
  cases result with
  | ok outcome => rfl
  | error error => simp only [orphan]; split <;> rfl

@[simp] theorem setup_declare (name : String) (dependencies : List String) (target : Target) :
    (loader.declare name dependencies target).setup = loader.setup := by
  unfold declare
  repeat' split
  all_goals rfl

@[simp] theorem setup_failTarget (name cause : String) :
    (loader.failTarget name cause).1.setup = loader.setup := by
  unfold failTarget
  split <;> rfl

@[simp] theorem setup_giveUpUnresolved : loader.giveUpUnresolved.1.setup = loader.setup := by
  unfold giveUpUnresolved
  split <;> rfl

theorem setup_noteTarget (name : String) (target : Option Target) :
    (loader.noteTarget name target).setup = loader.setup := by
  cases target with
  | none => rfl
  | some target => cases target <;> rfl

theorem Resting.waitingCount_eq {loader : Loader} (resting : loader.Resting)
    (tidy : loader.tracker.Tidy) : loader.tracker.waitingCount = 0 := by
  rw [Tracker.waitingCount, tidy.queues_eq_empty resting.queue]
  rfl

end Loader

def Frame.isRequest : Frame → Bool
  | .requesting _ _ | .sweeping _ _ _ _ | .settling _ _ => true
  | .walking _ _ _ | .resuming _ _ => false

namespace Machine

variable {machine next : Machine} {loader : Loader} {frames : List Frame} {name blocker : String}

/-- The number of requests on the stack. -/
def depth (machine : Machine) : Nat := machine.frames.countP Frame.isRequest

theorem Grounded.outermost_iff {caller : Caller} {result : Except LoadError Outcome}
    (grounded : Grounded ⟨loader, .requesting caller name :: frames, .answered result⟩)
    (stacked : Stacked ⟨loader, .requesting caller name :: frames, .answered result⟩) :
    caller = .outermost ↔ depth ⟨loader, frames, .answered result⟩ = 0 := by
  constructor
  · rintro rfl
    cases stacked.frames.1 trivial
    rfl
  · intro bare
    cases last : frames.getLast? with
    | none =>
        cases List.getLast?_eq_none_iff.mp last
        have bottom := grounded.frames _ rfl
        cases caller with
        | outermost => rfl
        | program => cases bottom
    | some frame =>
        have bottom := grounded.frames frame (by rw [List.getLast?_cons, last]; rfl)
        have request : frame.isRequest = true := by cases frame <;> first | rfl | cases bottom
        have counted := List.countP_eq_zero.mp bare frame (List.mem_of_getLast? last)
        exact absurd request counted

theorem Step.tidy (active : machine.Active) (step : Step machine next)
    (tidy : machine.loader.tracker.Tidy) : next.loader.tracker.Tidy := by
  cases step with
  | succeed reason => exact reason.tracker_eq ▸ tidy
  | reject reason =>
      rw [Loader.tracker_dropBehind, reason.tracker_eq]
      exact tidy.drop _
  | postpone reason =>
      rw [Loader.tracker_defer, reason.tracker_eq]
      exact tidy.defer _ _
  | remember reason =>
      rw [Loader.tracker_remember, reason.tracker_eq]
      exact tidy
  | begin =>
      rw [Loader.tracker_noteTarget]
      exact tidy
  | finish finished => exact tidy.finish finished
  | declare =>
      rw [Loader.tracker_note, Loader.tracker_declare]
      exact tidy
  | @fail _ _ library _ _ _ _ reason failing =>
      rw [Loader.tracker_dropBehind, (active.failTarget_eq reason _ _).1]
      have failed : (machine.loader.tracker.failing library).Tidy := tidy
      exact (failed.drop _).drop _
  | @conclude loader _ _ =>
      simp only [Machine.conclude, goto, withLoader, Loader.tracker_giveUpUnresolved]
      have taken : loader.takeErrors.1.tracker.Tidy := tidy
      exact taken.drop _
  | resumedOne | settledOne =>
      rw [Loader.tracker_orphan]
      exact tidy
  | advance | goOn | enter | descend | call | callAll | resumeNext | sweepNext | sweepEnd | settleNext
    | settleRound | returned | sweptOne => exact tidy

theorem Step.setup_eq (step : Step machine next) : next.loader.setup = machine.loader.setup := by
  cases step with
  | succeed reason => cases reason <;> simp
  | reject reason => cases reason <;> simp
  | postpone reason => cases reason <;> simp
  | remember reason => cases reason <;> simp
  | begin =>
      rw [Loader.setup_noteTarget]
      rfl
  | conclude => exact Loader.setup_giveUpUnresolved _
  | finish => rfl
  | fail | declare | goOn | resumedOne | settledOne | enter | settleNext | resumeNext => simp
  | advance | descend | call | callAll | sweepNext | sweepEnd | settleRound | returned | sweptOne => rfl

end Machine

structure Loader.SameRecords (before after : Loader) : Prop where
  registry : after.registry = before.registry
  progress : before.tracker.SameProgress after.tracker
  setup : after.setup = before.setup

namespace Loader.SameRecords

variable {first second third : Loader}

theorem refl (loader : Loader) : SameRecords loader loader := ⟨rfl, .refl _, rfl⟩

theorem trans (before : SameRecords first second) (after : SameRecords second third) :
    SameRecords first third where
  registry := after.registry.trans before.registry
  progress := before.progress.trans after.progress
  setup := after.setup.trans before.setup

theorem eq_of_resting (same : SameRecords first second) (before : first.Resting) (after : second.Resting)
    (tidy : first.tracker.Tidy) (clean : second.tracker.Tidy) :
    second = { first with journal := second.journal } := by
  have queues := (clean.queues_eq_empty after.queue).trans (tidy.queues_eq_empty before.queue).symm
  have buffers := after.buffers.trans before.buffers.symm
  have unresolved := after.unresolved.trans before.unresolved.symm
  obtain ⟨registry, ⟨statuses, failed, loadOrder⟩, setup⟩ := same
  obtain ⟨_, ⟨_, _, _, _⟩, _, _, _, _, _, _⟩ := first
  obtain ⟨_, ⟨_, _, _, _⟩, _, _, _, _, _, _⟩ := second
  cases registry
  cases statuses
  cases failed
  cases loadOrder
  cases setup
  cases queues
  cases buffers
  cases unresolved
  rfl

end Loader.SameRecords

namespace Machine

variable {machine next : Machine}

theorem Step.sameRecords (active : machine.Active) (step : Step machine next)
    (idle : machine.running = []) (still : next.running = []) :
    machine.loader.SameRecords next.loader := by
  have progress : machine.loader.tracker.SameProgress next.loader.tracker := by
    cases step.progress active with
    | still same running => exact same
    | begun name control _ same running => cases still.symm.trans running
    | ended name control same drained running => cases idle.symm.trans running
    | failed name same running => cases idle.symm.trans running
  refine ⟨?_, progress, step.setup_eq⟩
  cases step.recorded with
  | kept same => exact same
  | taken name target control waits begun taken =>
      cases waits.symm.trans ((progress.status name).symm.trans begun)
  | declared library name dependencies target rest control inserted =>
      rw [running, control] at idle
      cases idle

end Machine

namespace Pass

variable {pass : Pass}

theorem tidy (before : pass.loader.tracker.Tidy) (moment : Nat) :
    (pass.state moment).loader.tracker.Tidy := by
  induction moment with
  | zero =>
      rw [pass.tracker_start]
      exact before
  | succ moment ih =>
      rcases pass.state_cases moment with same | step
      · rw [same]
        exact ih
      · exact step.tidy (pass.sound moment).active ih

theorem sameRecords (requests : pass.action.Requests) (quiet : ∀ moment, (pass.state moment).running = [])
    (moment : Nat) : pass.loader.SameRecords (pass.state moment).loader := by
  induction moment with
  | zero =>
      obtain ⟨loader, reachable, action⟩ := pass
      cases action with
      | request | requestAll => exact .refl loader
      | register | fail | query => cases requests
  | succ moment ih =>
      rcases pass.state_cases moment with same | step
      · rw [same]
        exact ih
      · exact ih.trans (step.sameRecords (pass.sound moment).active (quiet moment) (quiet (moment + 1)))

end Pass

theorem Loader.Reachable.tidy {loader : Loader} (reachable : loader.Reachable) : loader.tracker.Tidy :=
  reachable.of_passes (fun _ _ _ member => absurd member List.not_mem_nil) fun pass => pass.tidy

namespace Pass

/-- What a pass leaves: no frame, no queue, no unresolved name and no error to report, and every library that is
still loading has failed. -/
structure CleanedUp (pass : Pass) (last : Nat) : Prop where
  depth : (pass.state last).depth = 0
  walk : walkOf (pass.state last).frames = []
  waiting : (pass.state last).loader.tracker.waitingCount = 0
  queues : ∀ name, (pass.state last).loader.tracker.queue name = []
  unresolved : (pass.state last).loader.unresolved = []
  failures : (pass.state last).loader.failures = []
  orphaned : (pass.state last).loader.orphaned = []
  failed : ∀ name, (pass.state last).loader.status name = .loading →
    (pass.state last).loader.isFailed name = true

/-- A pass cleans up after itself, and if no target runs in it, it changes the journal only. -/
theorem cleanedUp_of_done (pass : Pass) : ∃ last, pass.CleanedUp last ∧
    pass.loader.perform pass.action = ((pass.state last).loader, (pass.state last).answer) ∧
    (pass.state last).control = .done (pass.state last).answer ∧
    (pass.action.Requests → (∀ moment, (pass.state moment).running = []) →
      (pass.loader.perform pass.action).1 =
        { pass.loader with journal := (pass.loader.perform pass.action).1.journal }) := by
  obtain ⟨last, answer, done, performed⟩ := pass.exists_done
  have after : (pass.loader.perform pass.action).1 = (pass.state last).loader := congrArg Prod.fst performed
  have reachable := pass.reachable.perform pass.action
  have resting := reachable.resting
  have tidy := reachable.tidy
  have bare : (pass.state last).frames = [] := (pass.sound last).stacked.bottom (by rw [done]; trivial)
  rw [after] at resting tidy
  refine ⟨last, ?_, ?_, ?_, ?_⟩
  · exact {
      depth := by rw [Machine.depth, bare]; rfl
      walk := by rw [bare]; rfl
      waiting := resting.waitingCount_eq tidy
      queues := resting.queue
      unresolved := resting.unresolved
      failures := congrArg Prod.fst resting.buffers
      orphaned := congrArg Prod.snd resting.buffers
      failed := fun name => (resting.failed_iff name).mpr }
  · rw [performed, Machine.answer, done]
  · rw [Machine.answer, done]
  · -- The records are the same at every moment, and between passes the rest of a loader is always empty.
    intro requests quiet
    rw [after]
    exact (sameRecords requests quiet last).eq_of_resting pass.reachable.resting resting
      pass.reachable.tidy tidy

/-- `a` and `b` need each other. -/
def circular : Pass where
  loader := ((Loader.create ⟨false⟩ false).performAll [.register "a" ["b"] .noop,
    .register "b" ["a"] .noop]).1
  reachable := (Loader.Reachable.create ..).performAll _
  action := .request "a" false

theorem cleanedUp_of_done_circular : circular.action.Requests ∧ (∀ moment, (circular.state moment).running = []) ∧
    (circular.loader.perform circular.action).2 =
      .requested (.error (.dependencyCycle ["a", "b", "a"])) [] ∧
    (circular.loader.perform circular.action).1 =
      { circular.loader with journal := (circular.loader.perform circular.action).1.journal } := by
  have quiet : ∀ moment, (circular.state moment).running = [] := by
    have checked : ((List.range 12).all fun moment => (circular.state moment).running.isEmpty) = true := by cbv
    have rest : (circular.state 11).step? = none := by cbv
    refine always_of_rest (motive := fun machine => machine.running = []) rest ?_
    intro moment early
    exact List.isEmpty_iff.mp (List.all_eq_true.mp checked moment (List.mem_range.mpr (by omega)))
  obtain ⟨last, -, -, -, unmoved⟩ := cleanedUp_of_done circular
  exact ⟨trivial, quiet, by cbv, unmoved trivial quiet⟩

end Pass

end DemandLoad
