import DemandLoad.Loader

namespace DemandLoad

namespace Loader

variable (loader : Loader)

@[simp] theorem registry_note (event : Event) : (loader.note event).registry = loader.registry := rfl

@[simp] theorem tracker_note (event : Event) : (loader.note event).tracker = loader.tracker := rfl

@[simp] theorem unresolved_note (event : Event) :
    (loader.note event).unresolved = loader.unresolved := rfl

@[simp] theorem registry_announce (transition : Transition) :
    (loader.announce transition).registry = loader.registry := rfl

@[simp] theorem tracker_announce (transition : Transition) :
    (loader.announce transition).tracker = loader.tracker := rfl

@[simp] theorem unresolved_announce (transition : Transition) :
    (loader.announce transition).unresolved = loader.unresolved := rfl

@[simp] theorem registry_defer (name blocker : String) :
    (loader.defer name blocker).registry = loader.registry := by
  simp only [defer]
  split <;> rfl

@[simp] theorem tracker_defer (name blocker : String) :
    (loader.defer name blocker).tracker = (loader.tracker.defer name blocker).1 := by
  simp only [defer]
  split <;> rfl

@[simp] theorem unresolved_defer (name blocker : String) :
    (loader.defer name blocker).unresolved = loader.unresolved := by
  simp only [defer]
  split <;> rfl

@[simp] theorem registry_dropBehind (name : String) :
    (loader.dropBehind name).registry = loader.registry := rfl

@[simp] theorem tracker_dropBehind (name : String) :
    (loader.dropBehind name).tracker = (loader.tracker.drop [name]).1 := rfl

@[simp] theorem unresolved_dropBehind (name : String) :
    (loader.dropBehind name).unresolved = loader.unresolved := rfl

@[simp] theorem registry_remember (name : String) :
    (loader.remember name).registry = loader.registry := by
  unfold remember; split <;> rfl

@[simp] theorem tracker_remember (name : String) :
    (loader.remember name).tracker = loader.tracker := by
  unfold remember; split <;> rfl

theorem mem_unresolved_remember (name other : String) :
    other ∈ (loader.remember name).unresolved ↔ other ∈ loader.unresolved ∨ other = name := by
  unfold remember
  split
  case isTrue known =>
    have present : name ∈ loader.unresolved := by simpa using known
    constructor
    · exact Or.inl
    · rintro (old | rfl)
      · exact old
      · exact present
  case isFalse => simp

@[simp] theorem registry_forget (name : String) :
    (loader.forget name).registry = loader.registry := rfl

@[simp] theorem tracker_forget (name : String) :
    (loader.forget name).tracker = loader.tracker := rfl

@[simp] theorem registry_orphan (result : Except LoadError Outcome) :
    (loader.orphan result).registry = loader.registry := by
  cases result with
  | ok outcome => rfl
  | error error => simp only [orphan]; split <;> rfl

@[simp] theorem tracker_orphan (result : Except LoadError Outcome) :
    (loader.orphan result).tracker = loader.tracker := by
  cases result with
  | ok outcome => rfl
  | error error => simp only [orphan]; split <;> rfl

@[simp] theorem unresolved_orphan (result : Except LoadError Outcome) :
    (loader.orphan result).unresolved = loader.unresolved := by
  cases result with
  | ok outcome => rfl
  | error error => simp only [orphan]; split <;> rfl

theorem registry_declare (name : String) (dependencies : List String) (target : Target) :
    (loader.declare name dependencies target).registry =
      loader.registry.insert (.declare name target dependencies) := by
  unfold declare
  repeat' split
  all_goals rfl

theorem tracker_declare (name : String) (dependencies : List String) (target : Target) :
    (loader.declare name dependencies target).tracker = loader.tracker := by
  unfold declare
  repeat' split
  all_goals rfl

theorem unresolved_declare (name : String) (dependencies : List String) (target : Target) :
    (loader.declare name dependencies target).unresolved = loader.unresolved := by
  unfold declare
  repeat' split
  all_goals rfl

theorem registry_failTarget (name cause : String) :
    (loader.failTarget name cause).1.registry = loader.registry := by
  unfold failTarget; split <;> rfl

theorem statuses_failTarget (name cause : String) :
    (loader.failTarget name cause).1.tracker.statuses = loader.tracker.statuses := by
  unfold failTarget
  split
  · rfl
  case h_2 tracker dropped failed =>
    simp only [Tracker.fail] at failed
    split at failed <;> cases failed
    rfl

theorem unresolved_failTarget (name cause : String) :
    (loader.failTarget name cause).1.unresolved = loader.unresolved := by
  unfold failTarget; split <;> rfl

theorem registry_giveUpUnresolved :
    loader.giveUpUnresolved.1.registry = loader.registry := by
  unfold giveUpUnresolved; split <;> rfl

theorem statuses_giveUpUnresolved :
    loader.giveUpUnresolved.1.tracker.statuses = loader.tracker.statuses := by
  unfold giveUpUnresolved; split <;> rfl

theorem unresolved_giveUpUnresolved : loader.giveUpUnresolved.1.unresolved = [] := by
  unfold giveUpUnresolved
  split
  case h_1 none_left => exact none_left
  case h_2 => rfl

end Loader

end DemandLoad
