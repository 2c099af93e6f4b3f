import DemandLoad.Proofs.RestingLoaders

namespace DemandLoad

def Action.Requests : Action → Prop
  | .request _ _ | .requestAll _ _ => True
  | .register _ _ _ | .fail _ | .query _ => False

def Verdict.Serves (action : Action) : Verdict → Prop
  | .request name _ => ∃ strict, action = .request name strict
  | .sweep _ _ => ∃ start strict, action = .requestAll start strict

theorem Verdict.Serves.exists_result {verdict : Verdict} {name : String} {strict : Bool}
    (serves : verdict.Serves (.request name strict)) : ∃ result, verdict = .request name result := by
  cases verdict with
  | request other result => obtain ⟨_, same⟩ := serves; cases same; exact ⟨result, rfl⟩
  | sweep => obtain ⟨_, _, same⟩ := serves; cases same

theorem Verdict.Serves.exists_errors {verdict : Verdict} {stem : String} {strict : Bool}
    (serves : verdict.Serves (.requestAll stem strict)) : ∃ before errors, verdict = .sweep before errors := by
  cases verdict with
  | request => obtain ⟨_, same⟩ := serves; cases same
  | sweep before errors => exact ⟨before, errors, rfl⟩

def Frame.Serves (action : Action) : Frame → Prop
  | .requesting .outermost name => ∃ strict, action = .request name strict
  | .sweeping .outermost _ _ _ => ∃ start strict, action = .requestAll start strict
  | .settling verdict _ => verdict.Serves action
  | _ => True

def Control.Serves (action : Action) : Control → Prop
  | .sweep .outermost _ _ _ => ∃ start strict, action = .requestAll start strict
  | .settle verdict _ => verdict.Serves action
  | _ => True

theorem Control.Serves.inHand {action : Action} {control : Control} {frame : Frame}
    (serves : control.Serves action) (inHand : control.inHand? = some frame) : frame.Serves action := by
  unfold Control.inHand? at inHand
  split at inHand <;> cases inHand
  case h_4 caller _ _ _ _ =>
    cases caller with
    | outermost => exact serves
    | program => trivial
  case h_5 => exact serves
  all_goals trivial

namespace Machine

variable {machine next : Machine} {action : Action} {verdict : Verdict} {name : String}

structure Serves (action : Action) (machine : Machine) : Prop where
  frames : ∀ frame ∈ machine.frames, frame.Serves action
  control : machine.control.Serves action

theorem Serves.step (serves : machine.Serves action) (step : Step machine next) : next.Serves action := by
  constructor
  · intro frame member
    rcases step.mem_frames member with below | inHand
    · exact serves.frames frame below
    · exact serves.control.inHand inHand
  · cases step with
    | sweepEnd | settleRound => exact serves.control
    | returned => exact serves.frames _ (List.mem_cons_self ..)
    | settledOne => exact serves.frames _ (List.mem_cons_self ..)
    | @sweptOne _ _ caller =>
        have served := serves.frames _ (List.mem_cons_self ..)
        cases caller with
        | outermost => exact served
        | program => trivial
    | _ => trivial

theorem Serves.start (loader : Loader) (action : Action) :
    (Machine.start loader action).Serves action := by
  cases action with
  | request name strict =>
      refine ⟨?_, trivial⟩
      intro frame member
      cases List.mem_singleton.mp member
      exact ⟨strict, rfl⟩
  | requestAll start strict => exact ⟨by simp [Machine.start, perform, goto], start, strict, rfl⟩
  | register | fail | query =>
      exact ⟨by simp [Machine.start, perform, reply, goto, withLoader], trivial⟩

/-- The pass is settled, and its next step gives the answer. -/
structure Concludes (machine : Machine) (verdict : Verdict) : Prop where
  control : machine.control = .settle verdict []
  settled : machine.loader.due = []

theorem Step.concludes {answer : Answer} (step : Step machine next)
    (control : next.control = .done answer) :
    ∃ verdict, machine.Concludes verdict ∧ next = machine.conclude verdict := by
  cases step with
  | conclude settled => exact ⟨_, ⟨rfl, settled⟩, rfl⟩
  | _ => cases control

theorem Concludes.step?_eq (concludes : machine.Concludes verdict) :
    machine.step? = some (machine.conclude verdict) := by
  rw [step?, concludes.control]
  simp only [settle, concludes.settled]

theorem Step.of_concludes (step : Step machine next) (concludes : machine.Concludes verdict) :
    next = machine.conclude verdict :=
  Option.some.inj (step.step?_eq.symm.trans concludes.step?_eq)

/-- A verdict stands, and the pass is being settled. -/
def Holds (machine : Machine) (verdict : Verdict) : Prop :=
  (∃ due, machine.control = .settle verdict due) ∨ ∃ rest, .settling verdict rest ∈ machine.frames

theorem Concludes.holds (concludes : machine.Concludes verdict) : machine.Holds verdict :=
  .inl ⟨[], concludes.control⟩

theorem not_holds_start (loader : Loader) (action : Action) :
    ¬ (Machine.start loader action).Holds verdict := by
  rintro (⟨due, control⟩ | ⟨rest, member⟩)
  · cases action <;> cases control
  · cases action with
    | request => cases List.mem_singleton.mp member
    | register | requestAll | fail | query => cases member

theorem Step.holds_request {result : Except LoadError Outcome} (step : Step machine next)
    (holds : next.Holds (.request name result)) :
    machine.Holds (.request name result) ∨
      machine = ⟨next.loader, .requesting .outermost name :: next.frames, .answered result⟩ := by
  rcases holds with ⟨due, control⟩ | ⟨rest, member⟩
  · cases step with
    | settleRound => cases control; exact .inl (.inl ⟨_, rfl⟩)
    | returned => cases control; exact .inr rfl
    | settledOne => cases control; exact .inl (.inr ⟨_, List.mem_cons_self ..⟩)
    | _ => cases control
  · rcases step.mem_frames member with below | inHand
    · exact .inl (.inr ⟨rest, below⟩)
    · obtain ⟨name, control⟩ := Control.settle_of_inHand? inHand
      exact .inl (.inl ⟨_, control⟩)

end Machine

namespace Pass

theorem serves (pass : Pass) (moment : Nat) : (pass.state moment).Serves pass.action :=
  pass.induction (.start pass.loader pass.action) (fun _ _ serves step => serves.step step) moment

theorem grounded (pass : Pass) (moment : Nat) : (pass.state moment).Grounded := by
  induction moment with
  | zero => exact .start pass.loader pass.action
  | succ moment ih =>
      cases step : (pass.state moment).step? with
      | none =>
          rw [state_of_rest step]
          exact ih
      | some next =>
          rw [state_of_step step]
          exact ih.step step

theorem done_or_step (pass : Pass) (moment : Nat) : (∃ answer, (pass.state moment).control = .done answer) ∨
    Machine.Step (pass.state moment) (pass.state (moment + 1)) := by
  cases step : (pass.state moment).step? with
  | none => exact .inl ((pass.grounded moment).done step)
  | some next =>
      rw [state_of_step step]
      exact .inr (Machine.step_of_step? step)

theorem step_of_busy {pass : Pass} {moment : Nat}
    (busy : ∀ answer, (pass.state moment).control ≠ .done answer) :
    Machine.Step (pass.state moment) (pass.state (moment + 1)) := by
  rcases pass.done_or_step moment with ⟨answer, done⟩ | step
  · exact absurd done (busy answer)
  · exact step

theorem busy_before {pass : Pass} {moment : Nat}
    (busy : ∀ answer, (pass.state (moment + 1)).control ≠ .done answer) (answer : Answer) :
    (pass.state moment).control ≠ .done answer := by
  intro done
  rw [state_of_done done (Nat.le_succ moment)] at busy
  exact busy answer done

theorem concluded_of_done (pass : Pass) (requests : pass.action.Requests) (last : Nat) (answer : Answer)
    (done : (pass.state last).control = .done answer) :
    ∃ moment verdict, (pass.state moment).Concludes verdict ∧
      pass.state last = (pass.state moment).conclude verdict := by
  induction last with
  | zero =>
      obtain ⟨loader, reachable, action⟩ := pass
      cases action with
      | request | requestAll => cases done
      | register | fail | query => cases requests
  | succ last ih =>
      rcases pass.state_cases last with same | step
      · rw [same] at done ⊢
        exact ih done
      · obtain ⟨verdict, concludes, next⟩ := step.concludes done
        exact ⟨last, verdict, concludes, next⟩

theorem perform_of_concludes {pass : Pass} {moment : Nat} {verdict : Verdict}
    (concludes : (pass.state moment).Concludes verdict) :
    pass.loader.perform pass.action =
      (((pass.state moment).conclude verdict).loader, ((pass.state moment).conclude verdict).answer) := by
  have next := state_of_step concludes.step?_eq
  rw [← next]
  apply perform_of_done
  rw [next]
  rfl

/-- A pass that requests something ends by its conclusion. -/
theorem exists_concluded (pass : Pass) (requests : pass.action.Requests) :
    ∃ moment verdict, (pass.state moment).Concludes verdict ∧ verdict.Serves pass.action := by
  obtain ⟨last, answer, done, -⟩ := pass.exists_done
  obtain ⟨moment, verdict, concludes, -⟩ := pass.concluded_of_done requests last answer done
  have served := (pass.serves moment).control
  rw [concludes.control] at served
  exact ⟨moment, verdict, concludes, served⟩

end Pass

end DemandLoad
