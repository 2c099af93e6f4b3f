import DemandLoad.Proofs.UndeclaredReport
import Mathlib.Tactic.Tauto

namespace DemandLoad

def LoadError.IsRefused : LoadError → Prop
  | refused _ => True
  | _ => False

def Answer.allErrors (answer : Answer) : List LoadError := answer.primary ++ answer.errors

def Frame.held : Frame → List LoadError
  | .sweeping _ _ _ errors => errors
  | .settling verdict _ => verdict.errors
  | .walking _ _ _ | .requesting _ _ | .resuming _ _ => []

def Control.held : Control → List LoadError
  | .answered result => Machine.errorOf result
  | .sweep _ _ _ errors => errors
  | .settle verdict _ => verdict.errors
  | .done answer => answer.allErrors
  | .drive _ | .walk _ _ | .perform _ _ | .resume _ _ => []

namespace Machine

variable {machine next : Machine} {loader : Loader} {frames : List Frame} {name blocker : String}
  {error : LoadError}

/-- The errors in the control, on the stack and in `orphaned`. The failures of targets are recorded besides. -/
def held (machine : Machine) : List LoadError :=
  machine.control.held ++ machine.frames.flatMap Frame.held ++ machine.loader.orphaned

theorem mem_held : error ∈ machine.held ↔ (error ∈ machine.control.held ∨
    error ∈ machine.frames.flatMap Frame.held) ∨ error ∈ machine.loader.orphaned := by
  simp only [held, List.mem_append]

theorem Succeeds.mem_held {outcome : Outcome} (reason : Succeeds machine loader frames name outcome)
    (member : error ∈ held ⟨loader, frames, .answered (.ok outcome)⟩) : error ∈ machine.held := by
  rw [Machine.mem_held] at member ⊢
  cases reason <;> exact member

theorem orphaned_defer (loader : Loader) (name blocker : String) :
    (loader.defer name blocker).orphaned = loader.orphaned :=
  congrArg Prod.snd (loader.buffers_defer name blocker)

theorem orphaned_remember (loader : Loader) (name : String) :
    (loader.remember name).orphaned = loader.orphaned :=
  congrArg Prod.snd (loader.buffers_remember name)

theorem Postpones.mem_held (reason : Postpones machine loader frames name blocker)
    (member : error ∈ held ⟨loader.defer name blocker, frames, .answered (.ok .deferred)⟩) :
    error ∈ machine.held := by
  rw [Machine.mem_held, orphaned_defer] at member
  rw [Machine.mem_held]
  cases reason
  case dependencyWaits => exact member
  all_goals exact member

theorem Remembers.mem_held (reason : Remembers machine loader frames name)
    (member : error ∈ held ⟨loader.remember name, frames, .answered (.ok .deferred)⟩) :
    error ∈ machine.held := by
  rw [Machine.mem_held, orphaned_remember] at member
  rw [Machine.mem_held]
  cases reason <;> exact member

/-- The step raises an error, for a reason that holds before it or that it brings about. -/
inductive Raises (machine next : Machine) : LoadError → Prop
  | alreadyFailed {name : String} (failed : machine.loader.isFailed name = true) :
      Raises machine next (.alreadyFailed name)
  | dependencyFailed {name dependency : String} {rest : List String}
      (control : machine.control = .walk name (dependency :: rest))
      (failed : machine.loader.isFailed dependency = true) : Raises machine next (.dependencyFailed name dependency)
  | dependencyCycle {name : String} (control : machine.control = .drive name)
      (idle : machine.loader.status name = .unloaded) (walking : name ∈ walkOf machine.frames) :
      Raises machine next (.dependencyCycle (cyclePath (walkOf machine.frames) name))
  | loadFailed {failure : TargetFailure} (failed : next.loader.isFailed failure.library = true) :
      Raises machine next (.loadFailed failure)
  | recorded {failure : TargetFailure} (recorded : failure ∈ machine.loader.failures) :
      Raises machine next (.loadFailed failure)
  | unknown {error : LoadError} (unknown : error.IsUnknown) : Raises machine next error

theorem Raises.not_refused (raises : Raises machine next error) : ¬ error.IsRefused := by
  cases raises with
  | unknown unknown =>
      cases error with
      | unknown => exact id
      | _ => cases unknown
  | _ => exact id

theorem Rejects.mem_held {cause : LoadError} (active : machine.Active)
    (reason : Rejects machine loader frames name cause)
    (member : error ∈ held ⟨loader.dropBehind name, frames, .answered (.error cause)⟩) :
    error ∈ machine.held ∨ Raises machine next error := by
  rw [Machine.mem_held] at member ⊢
  rcases member with (new | below) | kept
  · cases List.mem_singleton.mp new
    cases reason
    case passedOn => exact .inl (.inl (.inl new))
    case refused unfinished => exact absurd unfinished active.not_refused
    case failedBefore loading failed => exact .inr (.alreadyFailed failed)
    case failedMeanwhile loading failed => exact .inr (.alreadyFailed failed)
    case dependencyFailed loading failed => exact .inr (.dependencyFailed rfl failed)
    case cycle idle known walking => exact .inr (.dependencyCycle rfl idle walking)
  · left
    cases reason <;> exact .inl (.inr below)
  · left
    cases reason <;> exact .inr kept

theorem Answers.allErrors_subset {library : String} {action : Action} {rest : List Action} {answer : Answer}
    (reason : Answers machine frames library action rest answer) : answer.allErrors ⊆ machine.held := by
  intro error member
  rw [Machine.mem_held]
  cases reason with
  | told | failing => cases member
  | swept => exact .inl (.inl member)
  | requested =>
      rw [Answer.allErrors, Answer.errors, List.append_nil] at member
      exact .inl (.inl member)

theorem Answers.mem_held {library : String} {action : Action} {rest : List Action} {answer : Answer}
    (reason : Answers machine frames library action rest answer)
    (member : error ∈ frames.flatMap Frame.held ∨ error ∈ machine.loader.orphaned) :
    error ∈ machine.held := by
  rw [Machine.mem_held]
  rcases member with below | kept
  · cases reason <;> exact .inl (.inr below)
  · exact .inr kept

theorem mem_verdictAnswer {errors : List LoadError} {unknown : Option LoadError} {verdict : Verdict}
    (member : error ∈ (verdictAnswer loader errors unknown verdict).allErrors) :
    (error ∈ verdict.errors ∨ error ∈ errors) ∨ error ∈ unknown := by
  have places := places_verdictAnswer loader errors unknown verdict
  generalize verdictAnswer loader errors unknown verdict = answer at member places
  rcases List.mem_append.mp member with first | listed
  · cases places with
    | primary name other given told =>
        cases List.mem_singleton.mp first
        exact .inr given
    | last others listed within primary => exact .inl (.inl (primary first))
  · cases places with
    | primary name other given told => exact .inl (.inr listed)
    | last others same within primary =>
        rw [same] at listed
        rcases List.mem_append.mp listed with other | last
        · exact .inl (List.mem_append.mp (within other))
        · exact .inr (Option.mem_toList.mp last)

theorem mem_held_conclude {verdict : Verdict} (sound : Stacked ⟨loader, frames, .settle verdict []⟩)
    (member : error ∈ (conclude ⟨loader, frames, .settle verdict []⟩ verdict).held) :
    error ∈ held ⟨loader, frames, .settle verdict []⟩ ∨ Raises ⟨loader, frames, .settle verdict []⟩ next error := by
  have bare : frames = [] := sound.bottom trivial
  subst bare
  rw [Machine.mem_held] at member ⊢
  rcases member with (told | below) | kept
  · rcases mem_verdictAnswer told with (direct | other) | unknown
    · exact .inl (.inl (.inl direct))
    · rcases List.mem_append.mp other with failed | orphaned
      · obtain ⟨failure, recorded, rfl⟩ := List.mem_map.mp failed
        exact .inr (.recorded recorded)
      · exact .inl (.inr orphaned)
    · exact .inr (.unknown (Loader.giveUpUnresolved_isUnknown _ error unknown))
  · cases below
  · have none_left : (conclude ⟨loader, [], .settle verdict []⟩ verdict).loader.orphaned = [] :=
      congrArg Prod.snd (Loader.buffers_giveUpUnresolved _)
    rw [none_left] at kept
    cases kept

theorem mem_orphaned_orphan {result : Except LoadError Outcome}
    (member : error ∈ (loader.orphan result).orphaned) :
    error ∈ errorOf result ∨ error ∈ loader.orphaned := by
  cases result with
  | ok outcome => exact .inr member
  | error cause =>
      simp only [Loader.orphan] at member
      split at member
      · exact .inr member
      · exact (List.mem_append.mp member).symm

theorem mem_held_of_quiet (member : error ∈ next.held) (same : next.frames = machine.frames)
    (quiet : next.control.held = []) (kept : next.loader.orphaned = machine.loader.orphaned) :
    error ∈ machine.held := by
  rw [Machine.mem_held, same, quiet, kept] at member
  rw [Machine.mem_held]
  rcases member with (nothing | below) | orphaned
  · cases nothing
  · exact .inl (.inr below)
  · exact .inr orphaned

theorem Step.mem_held (active : machine.Active) (stacked : machine.Stacked) (step : Step machine next)
    (member : error ∈ next.held) : error ∈ machine.held ∨ Raises machine next error := by
  cases step with
  | succeed reason => exact .inl (reason.mem_held member)
  | reject reason => exact reason.mem_held active member
  | postpone reason => exact .inl (reason.mem_held member)
  | remember reason => exact .inl (reason.mem_held member)
  | begin =>
      exact .inl (mem_held_of_quiet member rfl rfl (congrArg Prod.snd (Loader.buffers_noteTarget ..)))
  | declare =>
      exact .inl (mem_held_of_quiet member rfl rfl (congrArg Prod.snd (Loader.buffers_declare ..)))
  | enter | finish | callAll => exact .inl (mem_held_of_quiet member rfl rfl rfl)
  | conclude settled => exact mem_held_conclude stacked member
  | goOn reason =>
      rw [Machine.mem_held] at member
      rcases member with (nothing | below) | kept
      · cases nothing
      · exact .inl (reason.mem_held (.inl below))
      · exact .inl (reason.mem_held (.inr kept))
  | fail reason failing =>
      rw [Machine.mem_held] at member
      rcases member with (new | below) | kept
      · rw [(active.failTarget_eq reason _ _).2.2] at new
        cases List.mem_singleton.mp new
        exact .inr (.loadFailed (active.isFailed_fail reason _ _))
      · exact .inl (reason.mem_held (.inl below))
      · change error ∈ (Loader.failTarget _ _ _).1.orphaned at kept
        rw [Loader.orphaned_failTarget] at kept
        exact .inl (reason.mem_held (.inr kept))
  | advance reason =>
      left
      rw [Machine.mem_held] at member ⊢
      cases reason <;> exact member
  | resumedOne =>
      left
      rw [Machine.mem_held] at member ⊢
      rcases member with (nothing | below) | kept
      · cases nothing
      · exact .inl (.inr below)
      · exact (mem_orphaned_orphan kept).imp_left .inl
  | settledOne =>
      left
      rw [Machine.mem_held] at member ⊢
      rcases member with (direct | below) | kept
      · exact .inl (.inr (List.mem_append_left _ direct))
      · exact .inl (.inr (List.mem_append_right _ below))
      · exact (mem_orphaned_orphan kept).imp_left .inl
  | descend | call | resumeNext | sweepNext | sweepEnd | settleNext | settleRound | returned | sweptOne =>
      left
      rw [Machine.mem_held] at member ⊢
      simp only [Control.held, Frame.held, List.flatMap_cons, List.mem_append] at member ⊢
      tauto

theorem held_start (resting : loader.Resting) (action : Action) : (Machine.start loader action).held = [] := by
  have orphaned : loader.orphaned = [] := congrArg Prod.snd resting.buffers
  cases action with
  | register name dependencies target =>
      exact (congrArg Prod.snd (Loader.buffers_declare ..)).trans orphaned
  | request | requestAll | fail | query => exact orphaned

end Machine

theorem Pass.not_refused (pass : Pass) (moment : Nat) :
    ∀ error ∈ (pass.state moment).held, ¬ error.IsRefused := by
  induction moment with
  | zero =>
      intro error member
      rw [show (pass.state 0).held = [] from Machine.held_start pass.reachable.resting pass.action] at member
      cases member
  | succ moment ih =>
      rcases pass.state_cases moment with same | step
      · rw [same]
        exact ih
      · intro error member
        have sound := pass.sound moment
        exact (step.mem_held sound.active sound.stacked member).elim (ih error) Machine.Raises.not_refused

end DemandLoad
