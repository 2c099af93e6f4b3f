import DemandLoad.Proofs.ForwardProgress
import DemandLoad.Proofs.PassObservations

namespace DemandLoad

namespace Machine

variable {machine next : Machine} {name : String}

/-- The library whose load begins with the next step, and the target that is run for it. -/
def launch? (machine : Machine) : Option (String × Option Target) :=
  match machine.control with
  | .walk name [] =>
    if machine.loader.status name = .unloaded then
      (machine.loader.registry.takeTarget? name).map fun taken => (name, taken.1)
    else none
  | _ => none

theorem launch?_eq_some {target : Option Target} : machine.launch? = some (name, target) ↔
    machine.control = .walk name [] ∧ machine.loader.status name = .unloaded ∧
      ∃ registry, machine.loader.registry.takeTarget? name = some (target, registry) := by
  constructor
  · intro launched
    unfold launch? at launched
    split at launched
    case h_2 => cases launched
    case h_1 other control =>
      split at launched
      case isFalse => cases launched
      case isTrue idle =>
        obtain ⟨⟨_, registry⟩, taken, same⟩ := Option.map_eq_some_iff.mp launched
        cases same
        exact ⟨control, idle, registry, taken⟩
  · rintro ⟨control, idle, registry, taken⟩
    simp only [launch?, control, idle, taken, if_true, Option.map_some]

theorem Step.starts_iff (active : machine.Active) (step : Step machine next) :
    machine.Starts next name ↔ ∃ target, machine.launch? = some (name, target) := by
  constructor
  · intro starts
    obtain ⟨idle, begun⟩ := step.of_starts active starts
    obtain ⟨control, record, known, -⟩ := step.begins active idle begun
    have taken : ∃ registry, machine.loader.registry.takeTarget? name = some (record.target, registry) :=
      ⟨_, by rw [Registry.takeTarget?, known, Option.map_some]⟩
    exact ⟨record.target, launch?_eq_some.mpr ⟨control, idle, taken⟩⟩
  · rintro ⟨target, launched⟩
    obtain ⟨control, idle, registry, taken⟩ := launch?_eq_some.mp launched
    obtain ⟨loader, frames, _⟩ := machine
    cases control
    cases step.unique (.begin idle taken)
    rfl

theorem launch?_eq_none (control : ∀ name, machine.control ≠ .walk name []) : machine.launch? = none := by
  unfold launch?
  split
  case h_1 name walk => exact absurd walk (control name)
  case h_2 => rfl

/-- The targets that are run until the machine comes to rest, in order. -/
def launches (machine : Machine) : List (String × Option Target) :=
  match _step : machine.step? with
  | none => []
  | some next => machine.launch?.toList ++ next.launches
termination_by machine.measure
decreasing_by exact lower_of_step? _step

theorem launches_of_step (step : machine.step? = some next) :
    machine.launches = machine.launch?.toList ++ next.launches := by
  rw [launches]
  split <;> simp_all

theorem launches_of_rest (rest : machine.step? = none) : machine.launches = [] := by
  rw [launches]
  split <;> simp_all

end Machine

namespace Loader

def launches (loader : Loader) (action : Action) : List (String × Option Target) :=
  (Machine.start loader action).launches

def launchesAll (loader : Loader) : List Action → List (String × Option Target)
  | [] => []
  | action :: actions => loader.launches action ++ (loader.perform action).1.launchesAll actions

end Loader

namespace Pass

variable {pass : Pass} {last : Nat} {answer : Answer}

theorem launches_eq (pass : Pass) (count : Nat) : pass.loader.launches pass.action =
    pass.collect Machine.launch? count ++ (pass.state count).launches := by
  induction count with
  | zero => rfl
  | succ count ih =>
      rw [ih, collect_succ, List.append_assoc]
      cases step : (pass.state count).step? with
      | some next => rw [state_of_step step, Machine.launches_of_step step]
      | none =>
          have idle : (pass.state count).launch? = none := by
            apply Machine.launch?_eq_none
            intro name control
            rw [Machine.step?, control] at step
            cases step
          rw [state_of_rest step, idle]
          rfl

theorem launches_of_done (done : (pass.state last).control = .done answer) :
    pass.loader.launches pass.action = pass.collect Machine.launch? last := by
  rw [pass.launches_eq last, Machine.launches_of_rest (Machine.rest_of_done done), List.append_nil]

end Pass

end DemandLoad
