import DemandLoad.Proofs.RunningTargets

namespace DemandLoad

theorem Registry.contains_eq {τ : Type} (registry : Registry τ) (name : String) :
    registry.contains name = (registry.lookup? name).isSome := rfl

namespace Machine

variable {machine next : Machine} {loader : Loader} {frames : List Frame} {name blocker : String}

def declared? (machine : Machine) : Option String :=
  match machine.control with
  | .perform _ (.register name _ _ :: _) => some name
  | _ => none

def Declares (machine : Machine) (name : String) : Prop := machine.declared? = some name

theorem Succeeds.registry_eq {outcome : Outcome}
    (reason : Succeeds machine loader frames name outcome) :
    loader.registry = machine.loader.registry := by
  cases reason <;> rfl

theorem Rejects.registry_eq {error : LoadError} (reason : Rejects machine loader frames name error) :
    loader.registry = machine.loader.registry := by
  cases reason <;> rfl

theorem Postpones.registry_eq (reason : Postpones machine loader frames name blocker) :
    loader.registry = machine.loader.registry := by
  cases reason <;> rfl

theorem Remembers.registry_eq (reason : Remembers machine loader frames name) :
    loader.registry = machine.loader.registry := by
  cases reason <;> rfl

theorem registry_noteTarget (loader : Loader) (name : String) (target : Option Target) :
    (loader.noteTarget name target).registry = loader.registry := by
  cases target with
  | none => rfl
  | some target => cases target <;> rfl

/-- How a step changes the registry. -/
inductive Recorded : Machine → Machine → Prop
  | kept {machine next : Machine} (same : next.loader.registry = machine.loader.registry) :
      Recorded machine next
  | taken {machine next : Machine} (name : String) (target : Option Target)
      (control : machine.control = .walk name [])
      (idle : machine.loader.status name = .unloaded) (begun : next.loader.status name = .loading)
      (taken : machine.loader.registry.takeTarget? name = some (target, next.loader.registry)) :
      Recorded machine next
  | declared {machine next : Machine} (library name : String) (dependencies : List String)
      (target : Target) (rest : List Action)
      (control : machine.control = .perform library (.register name dependencies target :: rest))
      (inserted : next.loader.registry =
        machine.loader.registry.insert (.declare name target dependencies)) : Recorded machine next

theorem Step.recorded (step : Step machine next) : Recorded machine next := by
  cases step with
  | succeed reason => exact .kept reason.registry_eq
  | reject reason => exact .kept (by rw [Loader.registry_dropBehind, reason.registry_eq])
  | postpone reason => exact .kept (by rw [Loader.registry_defer, reason.registry_eq])
  | remember reason => exact .kept (by rw [Loader.registry_remember, reason.registry_eq])
  | @begin loader frames name target registry idle taken =>
      refine .taken name target rfl idle ?_ ?_
      · rw [Loader.status, Loader.tracker_noteTarget]
        exact (Tracker.status_setStatus ..).trans (if_pos rfl)
      · rw [registry_noteTarget]
        exact taken
  | declare =>
      refine .declared _ _ _ _ _ rfl ?_
      rw [Loader.registry_note, Loader.registry_declare]
  | fail => exact .kept (by rw [Loader.registry_dropBehind, Loader.registry_failTarget, Loader.registry_note])
  | conclude => exact .kept (Loader.registry_giveUpUnresolved _)
  | resumedOne | settledOne => exact .kept (Loader.registry_orphan ..)
  | advance | goOn | enter | finish | descend | call | callAll | resumeNext | sweepNext | sweepEnd
    | settleNext | settleRound | returned | sweptOne => exact .kept rfl

theorem lookup?_of_taken {registry taken : Registry Target} {target : Option Target}
    (found : registry.takeTarget? name = some (target, taken)) (other : String) :
    taken.lookup? other =
      if other = name then (registry.lookup? name).map Registry.clearTarget else registry.lookup? other := by
  obtain ⟨library, known, row⟩ := Option.map_eq_some_iff.mp found
  cases row
  rw [known, Option.map_some]
  exact registry.libraries.get?_insert name other _

/-- The record of an unloaded library is the one declared last. -/
theorem Step.lookup?_eq (step : Step machine next) (quiet : ¬ machine.Declares name)
    (waits : next.loader.status name = .unloaded) :
    next.loader.registry.lookup? name = machine.loader.registry.lookup? name := by
  cases step.recorded with
  | kept same => rw [same]
  | taken other target control idle begun taken =>
      rw [lookup?_of_taken taken]
      refine if_neg ?_
      rintro rfl
      rw [begun] at waits
      cases waits
  | declared library other dependencies target rest control inserted =>
      rw [inserted, Registry.lookup?_insert]
      refine if_neg ?_
      rintro rfl
      exact quiet (by rw [Declares, declared?, control])

theorem Step.dependencies?_eq (step : Step machine next) (quiet : ¬ machine.Declares name) :
    next.loader.registry.dependencies? name = machine.loader.registry.dependencies? name := by
  unfold Registry.dependencies?
  cases step.recorded with
  | kept same => rw [same]
  | taken other target control idle begun taken =>
      rw [lookup?_of_taken taken]
      split
      case isTrue same =>
        rw [same]
        cases machine.loader.registry.lookup? other <;> rfl
      case isFalse => rfl
  | declared library other dependencies target rest control inserted =>
      rw [inserted, Registry.lookup?_insert, if_neg]
      rintro rfl
      exact quiet (by rw [Declares, declared?, control])

end Machine

end DemandLoad
