import DemandLoad.Session
import DemandLoad.Proofs.StepRules

namespace DemandLoad

/-- The loaders that sessions lead to. -/
inductive Loader.Reachable : Loader → Prop
  | create (config : Config) (observed : Bool) : Reachable (.create config observed)
  | perform {loader : Loader} (reachable : Reachable loader) (action : Action) :
      Reachable (loader.perform action).1

theorem Loader.Reachable.performAll {loader : Loader} (reachable : loader.Reachable)
    (actions : List Action) : (loader.performAll actions).1.Reachable := by
  induction actions generalizing loader with
  | nil => exact reachable
  | cons action actions ih => exact ih (reachable.perform action)

namespace Machine

variable {machine next : Machine} {count : Nat}

theorem after_forward (step : machine.step? = some next) (count : Nat) :
    machine.after (count + 1) = next.after count := by
  simp only [after, step]

theorem after_still (rest : machine.step? = none) (count : Nat) : machine.after count = machine := by
  cases count with
  | zero => rfl
  | succ count => simp only [after, rest]

theorem after_succ (machine : Machine) (count : Nat) :
    machine.after (count + 1) = ((machine.after count).step?).getD (machine.after count) := by
  induction count generalizing machine with
  | zero =>
      simp only [after]
      cases machine.step? <;> rfl
  | succ count ih =>
      cases step : machine.step? with
      | none => simp only [after_still step, step, Option.getD_none]
      | some next => rw [after_forward step, after_forward step, ih]

theorem after_of_step (step : (machine.after count).step? = some next) :
    machine.after (count + 1) = next := by
  rw [after_succ, step, Option.getD_some]

theorem after_of_rest (rest : (machine.after count).step? = none) :
    machine.after (count + 1) = machine.after count := by
  rw [after_succ, rest, Option.getD_none]

theorem after_cases (machine : Machine) (count : Nat) :
    machine.after (count + 1) = machine.after count ∨
      Step (machine.after count) (machine.after (count + 1)) := by
  cases step : (machine.after count).step? with
  | none => exact .inl (after_of_rest step)
  | some next =>
      rw [after_of_step step]
      exact .inr (step_of_step? step)

theorem after_induction {motive : Machine → Prop} (machine : Machine) (initial : motive machine)
    (kept : ∀ current next, motive current → Step current next → motive next) (count : Nat) :
    motive (machine.after count) := by
  induction count with
  | zero => exact initial
  | succ count ih =>
      rcases after_cases machine count with same | step
      · exact same ▸ ih
      · exact kept _ _ ih step

theorem after_eq_run (rest : (machine.after count).step? = none) : machine.after count = machine.run := by
  rw [← run_after machine count, run_of_rest rest]

theorem rest_of_done {answer : Answer} (control : machine.control = .done answer) : machine.step? = none := by
  rw [step?, control]

theorem after_of_done {later : Nat} (order : count ≤ later)
    (rest : (machine.after count).step? = none) : machine.after later = machine.after count := by
  induction order with
  | refl => rfl
  | step order ih => rw [after_of_rest (ih ▸ rest), ih]

theorem tracker_start (loader : Loader) (action : Action) :
    (Machine.start loader action).loader.tracker = loader.tracker := by
  cases action with
  | register => exact Loader.tracker_declare ..
  | request | requestAll | fail | query => rfl

theorem exists_done (loader : Loader) (action : Action) :
    ∃ count answer, ((start loader action).after count).control = .done answer ∧
      (start loader action).run = (start loader action).after count := by
  obtain ⟨count, reached⟩ := exists_after (start loader action)
  refine ⟨count, (start loader action).run.answer, ?_, reached⟩
  rw [← reached]
  exact control_run_start loader action

end Machine

/-- An outermost action, on a loader that some session leads to. -/
structure Pass where
  loader : Loader
  reachable : loader.Reachable
  action : Action

namespace Pass

def state (pass : Pass) (moment : Nat) : Machine :=
  (Machine.start pass.loader pass.action).after moment

theorem tracker_start (pass : Pass) : (pass.state 0).loader.tracker = pass.loader.tracker :=
  Machine.tracker_start pass.loader pass.action

theorem state_of_step {pass : Pass} {moment : Nat} {next : Machine}
    (step : (pass.state moment).step? = some next) : pass.state (moment + 1) = next :=
  Machine.after_of_step step

theorem state_of_rest {pass : Pass} {moment : Nat} (rest : (pass.state moment).step? = none) :
    pass.state (moment + 1) = pass.state moment :=
  Machine.after_of_rest rest

theorem state_of_done {pass : Pass} {last moment : Nat} {answer : Answer}
    (control : (pass.state last).control = .done answer) (late : last ≤ moment) :
    pass.state moment = pass.state last :=
  Machine.after_of_done late (Machine.rest_of_done control)

theorem state_cases (pass : Pass) (moment : Nat) :
    pass.state (moment + 1) = pass.state moment ∨
      Machine.Step (pass.state moment) (pass.state (moment + 1)) :=
  Machine.after_cases _ moment

theorem induction {motive : Machine → Prop} (pass : Pass)
    (initial : motive (Machine.start pass.loader pass.action))
    (kept : ∀ current next, motive current → Machine.Step current next → motive next) (moment : Nat) :
    motive (pass.state moment) :=
  Machine.after_induction _ initial kept moment

/-- What holds at every moment up to the last one holds at every moment. -/
theorem always_of_rest {motive : Machine → Prop} {pass : Pass} {last : Nat}
    (rest : (pass.state last).step? = none) (upTo : ∀ moment, moment ≤ last → motive (pass.state moment))
    (moment : Nat) : motive (pass.state moment) := by
  rcases Nat.le_total moment last with early | late
  · exact upTo moment early
  · have same : pass.state moment = pass.state last := Machine.after_of_done late rest
    rw [same]
    exact upTo last (Nat.le_refl last)

theorem perform_of_done {pass : Pass} {moment : Nat} {answer : Answer}
    (control : (pass.state moment).control = .done answer) :
    pass.loader.perform pass.action = ((pass.state moment).loader, answer) := by
  have last : (Machine.start pass.loader pass.action).run = pass.state moment :=
    (Machine.after_eq_run (Machine.rest_of_done control)).symm
  change ((Machine.start pass.loader pass.action).run.loader, _) = _
  rw [last, Machine.answer, control]

theorem exists_done (pass : Pass) : ∃ last answer, (pass.state last).control = .done answer ∧
    pass.loader.perform pass.action = ((pass.state last).loader, answer) := by
  obtain ⟨last, answer, control, -⟩ := Machine.exists_done pass.loader pass.action
  exact ⟨last, answer, control, perform_of_done control⟩

theorem perform_of_always {motive : Loader → Prop} (pass : Pass)
    (always : ∀ moment, motive (pass.state moment).loader) : motive (pass.loader.perform pass.action).1 := by
  obtain ⟨last, answer, -, performed⟩ := pass.exists_done
  rw [performed]
  exact always last

end Pass

/-- What holds of a new loader, and throughout a pass if it holds at its start, holds of every reachable
loader. -/
@[elab_as_elim]
theorem Loader.Reachable.of_passes {motive : Loader → Prop} {loader : Loader} (reachable : loader.Reachable)
    (initial : ∀ config observed, motive (.create config observed))
    (kept : ∀ pass : Pass, motive pass.loader → ∀ moment, motive (pass.state moment).loader) : motive loader := by
  induction reachable with
  | create config observed => exact initial config observed
  | @perform loader reachable action ih =>
      let pass : Pass := ⟨loader, reachable, action⟩
      exact pass.perform_of_always (kept pass ih)

end DemandLoad
