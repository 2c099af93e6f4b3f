import DemandLoad.Tracker.Op
import DemandLoad.Proofs.ErrorsInFlight
import DemandLoad.Proofs.TargetPrograms

/-!
No call of the tracker is refused, no load finds its target missing, and the libraries that are loading without
having failed are those that run.
-/

namespace DemandLoad

/-- Every declared library that is unloaded has its target. -/
def Loader.Stocked (loader : Loader) : Prop :=
  ∀ name record, loader.registry.lookup? name = some record → loader.status name = .unloaded →
    record.target.isSome = true

theorem Loader.Stocked.declare {loader : Loader} (stocked : loader.Stocked) (name : String)
    (dependencies : List String) (target : Target) : (loader.declare name dependencies target).Stocked := by
  intro other record known idle
  rw [lookup?_declare] at known
  rw [Loader.status, tracker_declare] at idle
  split at known
  · cases known
    rfl
  · exact stocked other record known idle

def Event.missing? : Event → Option String
  | .logged (.targetMissing name) => some name
  | _ => none

theorem Event.overlooks_missing : Overlooks Event.missing? where
  observed _ := rfl
  logged entry plain := by
    cases entry with
    | targetMissing name => exact absurd rfl (plain name)
    | _ => rfl
  started _ := rfl

namespace Tracker

variable {tracker : Tracker} {name : String}

theorem apply_start (idle : tracker.status name = .unloaded) :
    tracker.apply (.start name) = (tracker.setStatus name .loading, .done) := by
  simp [apply, start, idle]

theorem apply_fail (loading : tracker.status name = .loading) (sound : tracker.isFailed name = false) :
    tracker.apply (.fail name) =
      (((tracker.failing name).drop [name]).1, .waiters ((tracker.failing name).drop [name]).2) := by
  simp [apply, fail_eq_ok loading sound]

end Tracker

namespace Machine

variable {machine next : Machine} {frames : List Frame} {name : String}

/-- The next step makes this call of the tracker: to begin a load, to end one, or to have one fail. -/
inductive Calls : Machine → Tracker.Op → Prop
  | start {loader : Loader} {frames : List Frame} {name : String}
      (idle : loader.status name = .unloaded) : Calls ⟨loader, frames, .walk name []⟩ (.start name)
  | finish {loader : Loader} {frames : List Frame} {name : String} :
      Calls ⟨loader, frames, .perform name []⟩ (.finish name)
  | fail {machine : Machine} {frames : List Frame} {library : String} {action : Action}
      {rest : List Action} {answer : Answer} {cause : String}
      (reason : Answers machine frames library action rest answer)
      (failing : action.failure? answer = some cause) : Calls machine (.fail library)

theorem Calls.accepted {op : Tracker.Op} (active : machine.Active) (calls : machine.Calls op)
    (refusal : Refusal) : (machine.loader.tracker.apply op).2 ≠ .refused refusal := by
  cases calls with
  | start idle => simp [Tracker.apply_start idle]
  | @finish loader frames name =>
      cases ended : loader.tracker.finish name with
      | error refusal => exact absurd ended active.not_refused
      | ok left => simp [Tracker.apply, ended]
  | fail reason failing =>
      obtain ⟨loading, sound⟩ := active.of_answers reason
      simp [Tracker.apply_fail loading sound]

theorem Step.called (active : machine.Active) (step : Step machine next) :
    machine.loader.tracker.SameProgress next.loader.tracker ∨ ∃ op, machine.Calls op ∧
      (machine.loader.tracker.apply op).1.SameProgress next.loader.tracker := by
  cases step with
  | begin idle taken =>
      refine .inr ⟨_, .start idle, ?_⟩
      rw [Tracker.apply_start idle, Loader.tracker_noteTarget]
      exact .refl _
  | finish finished =>
      refine .inr ⟨_, .finish, ?_⟩
      simp only [Tracker.apply, finished]
      exact .refl _
  | fail reason failing =>
      refine .inr ⟨_, .fail reason failing, ?_⟩
      obtain ⟨loading, sound⟩ := active.of_answers reason
      rw [Loader.tracker_dropBehind, (active.failTarget_eq reason _ _).1, Tracker.apply_fail loading sound]
      exact .drop _ _
  | succeed reason => exact .inl (reason.tracker_eq ▸ .refl _)
  | reject reason =>
      left
      rw [Loader.tracker_dropBehind, reason.tracker_eq]
      exact .drop _ _
  | postpone reason =>
      left
      rw [Loader.tracker_defer, reason.tracker_eq]
      exact .defer _ _ _
  | remember reason =>
      left
      rw [Loader.tracker_remember, reason.tracker_eq]
      exact .refl _
  | declare =>
      left
      rw [Loader.tracker_note, Loader.tracker_declare]
      exact .refl _
  | conclude =>
      left
      simp only [Machine.conclude, goto, withLoader, Loader.tracker_giveUpUnresolved]
      exact .drop _ _
  | resumedOne | settledOne =>
      left
      rw [Loader.tracker_orphan]
      exact .refl _
  | advance | goOn | enter | descend | call | callAll | resumeNext | sweepNext | sweepEnd | settleNext
    | settleRound | returned | sweptOne => exact .inl (.refl _)

theorem Calls.failed_cases {op : Tracker.Op} (active : machine.Active) (calls : machine.Calls op)
    (failed : (machine.loader.tracker.apply op).1.isFailed name = true) :
    machine.loader.isFailed name = true ∨ ∃ frames action rest answer cause,
      Answers machine frames name action rest answer ∧ action.failure? answer = some cause := by
  cases calls with
  | start idle =>
      rw [Tracker.apply_start idle] at failed
      exact .inl failed
  | @finish loader frames ending =>
      left
      simp only [Tracker.apply] at failed
      cases ended : loader.tracker.finish ending with
      | error refusal => exact absurd ended active.not_refused
      | ok left =>
          obtain ⟨-, -, same, -⟩ := Tracker.finish_eq_ok ended
          rw [ended, same] at failed
          exact failed
  | fail reason failing =>
      obtain ⟨loading, sound⟩ := active.of_answers reason
      rw [Tracker.apply_fail loading sound] at failed
      rcases ((Tracker.SameProgress.drop _ _).isFailed_failed name).mp failed with old | rfl
      · exact .inl old
      · exact .inr ⟨_, _, _, _, _, reason, failing⟩

theorem Step.failed_cases (active : machine.Active) (step : Step machine next)
    (failed : next.loader.isFailed name = true) :
    machine.loader.isFailed name = true ∨ ∃ frames action rest answer cause,
      Answers machine frames name action rest answer ∧ action.failure? answer = some cause := by
  rcases step.called active with same | ⟨op, calls, same⟩
  · exact .inl ((same.isFailed name).symm.trans failed)
  · exact calls.failed_cases active ((same.isFailed name).symm.trans failed)

theorem Step.stocked (active : machine.Active) (step : Step machine next)
    (stocked : machine.loader.Stocked) : next.loader.Stocked := by
  intro name record known idle
  have before := step.idle_before active idle
  cases step.recorded with
  | kept same => exact stocked name record (same ▸ known) before
  | taken other target control waits begun taken =>
      rw [lookup?_of_taken taken] at known
      split at known
      case isTrue same =>
        rw [same, begun] at idle
        cases idle
      case isFalse => exact stocked name record known before
  | declared library other dependencies target rest control inserted =>
      rw [inserted, Registry.lookup?_insert] at known
      split at known
      · cases known
        rfl
      · exact stocked name record known before

theorem Step.takes (step : Step machine next) (stocked : machine.loader.Stocked)
    (known : machine.loader.registry.contains name = true) (control : machine.control = .walk name [])
    (idle : machine.loader.status name = .unloaded) :
    ∃ target registry, machine.loader.registry.takeTarget? name = some (some target, registry) ∧
      next.control = .perform name (Target.actions (some target)) := by
  obtain ⟨loader, frames, _⟩ := machine
  cases control
  rw [Registry.contains_eq, Option.isSome_iff_exists] at known
  obtain ⟨record, known⟩ := known
  obtain ⟨target, held⟩ := Option.isSome_iff_exists.mp (stocked name record known idle)
  have taken : loader.registry.takeTarget? name =
      some (some target, ⟨loader.registry.libraries.insert name (Registry.clearTarget record)⟩) := by
    rw [Registry.takeTarget?, known, Option.map_some, held]
  rw [step.unique (.begin idle taken)]
  exact ⟨target, _, taken, rfl⟩

theorem Step.unmissed (step : Step machine next) (stocked : machine.loader.Stocked) :
    next.loader.sights Event.missing? = machine.loader.sights Event.missing? := by
  have overlooks := Event.overlooks_missing
  have performed : ∀ (loader : Loader) library action answer,
      (loader.note (.performed library action answer)).sights Event.missing? = loader.sights Event.missing? :=
    fun loader library action answer => (Loader.sights_note ..).trans (List.append_nil _)
  cases step with
  | succeed reason => cases reason <;> simp [Loader.sights_announce overlooks]
  | reject reason =>
      rw [Loader.sights_dropBehind overlooks]
      cases reason <;> simp [Loader.sights_announce overlooks, Loader.sights_forget]
  | postpone reason =>
      rw [Loader.sights_defer overlooks]
      cases reason <;> simp [Loader.sights_announce overlooks]
  | remember reason =>
      rw [Loader.sights_remember]
      cases reason <;> simp [Loader.sights_announce overlooks]
  | begin idle taken =>
      obtain ⟨record, known, row⟩ := Option.map_eq_some_iff.mp taken
      cases row
      obtain ⟨target, held⟩ := Option.isSome_iff_exists.mp (stocked _ record known idle)
      rw [held, Loader.sights_noteTarget overlooks]
      exact Loader.sights_announce overlooks _ _
  | finish => exact Loader.sights_announce overlooks _ _
  | declare => exact (performed ..).trans (Loader.sights_declare overlooks _ _ _ _)
  | goOn => exact performed ..
  | fail =>
      rw [Loader.sights_dropBehind overlooks, Loader.sights_failTarget overlooks]
      exact performed ..
  | conclude => exact Loader.sights_giveUpUnresolved overlooks _
  | resumeNext | settleNext | enter => exact Loader.sights_announce overlooks _ _
  | resumedOne | settledOne => exact Loader.sights_orphan ..
  | advance | descend | call | callAll | sweepNext | sweepEnd | settleRound | returned | sweptOne => rfl

theorem mem_running_iff_performs : name ∈ machine.running ↔ ∃ actions, machine.Performs name actions := by
  have caller : ∀ caller : Caller, name ∈ caller.library?.toList ↔
      ∃ actions, caller.program? = some (name, actions) := by
    intro caller
    cases caller <;> simp [Caller.library?, Caller.program?, eq_comm]
  have top : name ∈ machine.control.running ↔ ∃ actions, machine.control.program? = some (name, actions) := by
    cases machine.control <;> simp [Control.running, Control.program?, caller, eq_comm]
  have below : ∀ frame : Frame, name ∈ frame.running ↔ ∃ actions, frame.program? = some (name, actions) := by
    intro frame
    cases frame <;> simp [Frame.running, Frame.program?, caller]
  simp only [running, List.mem_append, List.mem_flatMap, top, below, Performs]
  constructor
  · rintro (⟨actions, control⟩ | ⟨frame, member, actions, program⟩)
    · exact ⟨actions, .inl control⟩
    · exact ⟨actions, .inr ⟨frame, member, program⟩⟩
  · rintro ⟨actions, control | ⟨frame, member, program⟩⟩
    · exact .inl ⟨actions, control⟩
    · exact .inr ⟨frame, member, actions, program⟩

end Machine

namespace Pass

theorem stocked (pass : Pass) (before : pass.loader.Stocked) (moment : Nat) :
    (pass.state moment).loader.Stocked := by
  induction moment with
  | zero =>
      obtain ⟨loader, reachable, action⟩ := pass
      cases action with
      | register name dependencies target => exact before.declare name dependencies target
      | request | requestAll | fail | query => exact before
  | succ moment ih =>
      rcases pass.state_cases moment with same | step
      · rw [same]
        exact ih
      · exact step.stocked (pass.sound moment).active ih

theorem unmissed (pass : Pass) (before : pass.loader.Stocked)
    (unseen : pass.loader.sights Event.missing? = []) (moment : Nat) :
    (pass.state moment).loader.sights Event.missing? = [] := by
  induction moment with
  | zero =>
      obtain ⟨loader, reachable, action⟩ := pass
      cases action with
      | register => exact (Loader.sights_declare Event.overlooks_missing _ _ _ _).trans unseen
      | request | requestAll | fail | query => exact unseen
  | succ moment ih =>
      rcases pass.state_cases moment with same | step
      · rw [same]
        exact ih
      · rw [step.unmissed (pass.stocked before moment)]
        exact ih

/-- A library that is loading at the end of its walk has failed: it was unloaded when the walk began, and the
frames below the walk have not changed since. -/
theorem failed_of_rechecked {pass : Pass} {moment : Nat} {name : String}
    (control : (pass.state moment).control = .walk name [])
    (loading : (pass.state moment).loader.status name = .loading) :
    (pass.state moment).loader.isFailed name = true := by
  apply Classical.byContradiction
  intro sound
  have active := (pass.sound moment).active
  have runs := (active.mem_running name).mpr ⟨loading, Bool.eq_false_iff.mpr sound⟩
  rw [Machine.running, control] at runs
  obtain ⟨began, past, captured, -, -⟩ := (pass.traced moment).control name [] control
  have ran : name ∈ (pass.state began).running := by
    rw [Machine.running, captured.driven, captured.below]
    exact runs
  have begun := ((pass.sound began).active.mem_running name).mp ran
  rcases pass.state_cases began with same | step
  · have walked := captured.walked
    rw [same, captured.driven] at walked
    cases walked
  · cases begun.1.symm.trans (step.idle_of_entered captured.driven captured.walked)

end Pass

theorem Loader.Reachable.stocked {loader : Loader} (reachable : loader.Reachable) : loader.Stocked := by
  refine reachable.of_passes ?_ Pass.stocked
  intro config observed name record known
  cases known

theorem Loader.Reachable.unmissed {loader : Loader} (reachable : loader.Reachable) :
    loader.sights Event.missing? = [] :=
  reachable.of_passes (fun _ _ => rfl) fun pass => pass.unmissed pass.reachable.stocked

namespace Session

variable {session : Session} {moment : Moment}

theorem stocked (session : Session) (moment : Moment) : (session.state moment).loader.Stocked :=
  Pass.stocked _ (session.reachable moment.index).stocked moment.count

/-- The tracker's progress changes by accepted calls alone, and nothing in it changes between passes. -/
structure TrackerCallsAccepted (session : Session) : Prop where
  accepted : ∀ moment op, (session.state moment).Calls op →
    ∀ refusal, ((session.state moment).loader.tracker.apply op).2 ≠ .refused refusal
  called : ∀ moment, (session.state moment).loader.tracker.SameProgress (session.state moment.next).loader.tracker ∨
    ∃ op, (session.state moment).Calls op ∧
      ((session.state moment).loader.tracker.apply op).1.SameProgress (session.state moment.next).loader.tracker
  handedOn : session.TrackerHandedOn

/-- No request, of a target or of the outermost caller, is answered with a refusal. -/
structure RefusalNeverAnswered (session : Session) : Prop where
  returned : ∀ moment refusal, (session.state moment).control ≠ .answered (.error (.refused refusal))
  told : ∀ moment frames library action rest answer,
    (session.state moment).Answers frames library action rest answer →
    ∀ error ∈ answer.allErrors, ¬ error.IsRefused
  answered : ∀ index, ∀ error ∈ ((session.loader index).perform (session.actions index)).2.allErrors,
    ¬ error.IsRefused

/-- A declared library that is unloaded has a target, which its load takes out and runs. -/
structure TargetsKept (session : Session) : Prop where
  stocked : ∀ moment, (session.state moment).loader.Stocked
  taken : ∀ moment name, (session.state moment).control = .walk name [] →
    (session.state moment).loader.status name = .unloaded → ∃ target registry,
      (session.state moment).loader.registry.takeTarget? name = some (some target, registry) ∧
      (session.state moment.next).control = .perform name (Target.actions (some target))
  unmissed : ∀ moment name, .logged (.targetMissing name) ∉ (session.state moment).loader.journal

/-- The libraries that are loading and have not failed are those whose targets are part way through, none of
them twice. -/
structure RunningIsLoading (session : Session) : Prop where
  distinct : ∀ moment, (session.state moment).running.Nodup
  running : ∀ moment name, name ∈ (session.state moment).running ↔
    (session.state moment).loader.status name = .loading ∧ (session.state moment).loader.isFailed name = false
  performs : ∀ moment name, name ∈ (session.state moment).running ↔
    ∃ actions, (session.state moment).Performs name actions
  rechecked : ∀ moment name, (session.state moment).control = .walk name [] →
    (session.state moment).loader.status name = .loading → (session.state moment).loader.isFailed name = true

structure SafeTrackerUse (session : Session) : Prop where
  calls : session.TrackerCallsAccepted
  refusals : session.RefusalNeverAnswered
  targets : session.TargetsKept
  running : session.RunningIsLoading

theorem trackerCallsAccepted (session : Session) : session.TrackerCallsAccepted where
  accepted moment op calls := calls.accepted (session.sound moment).active
  called moment := by
    rcases session.state_cases moment with same | step
    · rw [same]
      exact .inl (.refl _)
    · exact step.called (session.sound moment).active
  handedOn := session.trackerHandedOn

theorem refusalNeverAnswered (session : Session) : session.RefusalNeverAnswered where
  returned moment refusal control := by
    have held : .refused refusal ∈ (session.state moment).held := by
      rw [Machine.mem_held, control]
      exact .inl (.inl (List.mem_singleton.mpr rfl))
    exact Pass.not_refused _ moment.count _ held trivial
  told moment frames library action rest answer answers error member :=
    Pass.not_refused _ moment.count error (answers.allErrors_subset member)
  answered index error member := by
    obtain ⟨last, answer, control, performed⟩ := (session.pass index).exists_done
    have answered : ((session.loader index).perform (session.actions index)).2 = answer :=
      congrArg Prod.snd performed
    rw [answered] at member
    have held : error ∈ ((session.pass index).state last).held := by
      rw [Machine.mem_held, control]
      exact .inl (.inl member)
    exact Pass.not_refused _ last error held

theorem targetsKept (session : Session) : session.TargetsKept where
  stocked := session.stocked
  taken moment name control idle := by
    have busy : ∀ answer, (session.state moment).control ≠ .done answer := by simp [control]
    exact (Pass.step_of_busy busy).takes (session.stocked moment) (Pass.known_of_walk control) control idle
  unmissed moment name member := by
    have seen : name ∈ (session.state moment).loader.sights Event.missing? :=
      List.mem_filterMap.mpr ⟨_, member, rfl⟩
    have reachable := session.reachable moment.index
    rw [state, (session.pass moment.index).unmissed reachable.stocked reachable.unmissed] at seen
    cases seen

theorem runningIsLoading (session : Session) : session.RunningIsLoading where
  distinct moment := (session.sound moment).active.nodup
  running moment := (session.sound moment).active.mem_running
  performs _ _ := Machine.mem_running_iff_performs
  rechecked _ _ control loading := Pass.failed_of_rechecked control loading

/-- No session misuses its tracker or its registry, whatever its targets do. -/
theorem safeTrackerUse (session : Session) : session.SafeTrackerUse where
  calls := session.trackerCallsAccepted
  refusals := session.refusalNeverAnswered
  targets := session.targetsKept
  running := session.runningIsLoading

end Session

end DemandLoad
