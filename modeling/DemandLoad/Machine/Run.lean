import DemandLoad.Machine.Descent
import DemandLoad.Machine.Frames

namespace DemandLoad

namespace Machine

def run (machine : Machine) : Machine :=
  match _step : machine.step? with
  | none => machine
  | some next => run next
termination_by machine.measure
decreasing_by exact lower_of_step? _step

def after (machine : Machine) : Nat → Machine
  | 0 => machine
  | count + 1 =>
    match machine.step? with
    | none => machine
    | some next => next.after count

def answer (machine : Machine) : Answer :=
  match machine.control with
  | .done answer => answer
  | _ => .nothing

theorem run_of_step {machine next : Machine} (step : machine.step? = some next) :
    machine.run = next.run := by
  rw [run]
  split <;> simp_all

theorem run_of_rest {machine : Machine} (rest : machine.step? = none) : machine.run = machine := by
  rw [run]
  split <;> simp_all

theorem run_after (machine : Machine) (count : Nat) : (machine.after count).run = machine.run := by
  induction count generalizing machine with
  | zero => rfl
  | succ count ih =>
      unfold after
      split
      case h_1 => rfl
      case h_2 next step => rw [ih next, run_of_step step]

theorem exists_after (machine : Machine) : ∃ count, machine.run = machine.after count := by
  fun_induction run machine with
  | case1 => exact ⟨0, rfl⟩
  | case2 current next step ih =>
      obtain ⟨count, reached⟩ := ih
      refine ⟨count + 1, ?_⟩
      rw [reached, after, step]

/-- What holds at the start and is kept by every step holds at the end of the run. -/
theorem run_induction {motive : Machine → Prop} (machine : Machine) (initial : motive machine)
    (kept : ∀ current next, motive current → current.step? = some next → motive next) :
    motive machine.run := by
  fun_induction run machine with
  | case1 => exact initial
  | case2 current next step ih => exact ih (kept current next initial step)

theorem step?_run (machine : Machine) : machine.run.step? = none := by
  fun_induction run machine with
  | case1 current rest => exact rest
  | case2 current next step ih => exact ih

theorem control_run_start (loader : Loader) (action : Action) :
    (start loader action).run.control = .done (start loader action).run.answer := by
  have grounded := run_induction (start loader action) (Grounded.start loader action)
    (fun _ _ held step => held.step step)
  obtain ⟨answer, reached⟩ := grounded.done (step?_run _)
  rw [Machine.answer, reached]

end Machine

namespace Loader

/-- Performs an outermost action: the loader afterwards, and the answer. -/
def perform (loader : Loader) (action : Action) : Loader × Answer :=
  let last := (Machine.start loader action).run
  (last.loader, last.answer)

end Loader

end DemandLoad
