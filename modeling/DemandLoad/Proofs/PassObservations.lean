import DemandLoad.Proofs.JournalObservation
import DemandLoad.Proofs.OutermostPurpose

namespace DemandLoad

/-- An action that a target performed, and its answer. -/
structure Deed where
  library : String
  action : Action
  answer : Answer

def Deed.failure? (deed : Deed) : Option TargetFailure :=
  (deed.action.failure? deed.answer).map (TargetFailure.mk deed.library)

def Deed.Alone (deed : Deed) : Prop :=
  ∀ result errors, deed.answer = .requested result errors → errors = []

def Event.deed? : Event → Option Deed
  | .performed library action answer => some ⟨library, action, answer⟩
  | .observed _ | .logged _ | .started _ => none

theorem Event.overlooks_deed : Overlooks Event.deed? := ⟨fun _ => rfl, fun _ _ => rfl, fun _ => rfl⟩

namespace Loader

def deeds (loader : Loader) : List Deed := loader.journal.filterMap Event.deed?

/-- The failures of targets, in the order in which they happened. -/
def targetFailures (loader : Loader) : List TargetFailure := loader.deeds.filterMap Deed.failure?

variable (loader : Loader)

theorem deeds_note (event : Event) : (loader.note event).deeds = loader.deeds ++ event.deed?.toList :=
  sights_note Event.deed? loader event

@[simp] theorem deeds_log (entry : LogEntry) : (loader.log entry).deeds = loader.deeds := by
  rw [log, deeds_note]
  exact List.append_nil _

@[simp] theorem deeds_announce (transition : Transition) :
    (loader.announce transition).deeds = loader.deeds :=
  sights_announce Event.overlooks_deed loader transition

@[simp] theorem deeds_defer (name blocker : String) : (loader.defer name blocker).deeds = loader.deeds :=
  sights_defer Event.overlooks_deed loader name blocker

@[simp] theorem deeds_dropBehind (name : String) : (loader.dropBehind name).deeds = loader.deeds :=
  sights_dropBehind Event.overlooks_deed loader name

@[simp] theorem deeds_remember (name : String) : (loader.remember name).deeds = loader.deeds :=
  sights_remember loader name

@[simp] theorem deeds_forget (name : String) : (loader.forget name).deeds = loader.deeds :=
  sights_forget loader name

@[simp] theorem deeds_orphan (result : Except LoadError Outcome) :
    (loader.orphan result).deeds = loader.deeds :=
  sights_orphan loader result

@[simp] theorem deeds_declare (name : String) (dependencies : List String) (target : Target) :
    (loader.declare name dependencies target).deeds = loader.deeds :=
  sights_declare Event.overlooks_deed loader name dependencies target

@[simp] theorem deeds_failTarget (name cause : String) :
    (loader.failTarget name cause).1.deeds = loader.deeds :=
  sights_failTarget Event.overlooks_deed loader name cause

@[simp] theorem deeds_giveUpUnresolved : loader.giveUpUnresolved.1.deeds = loader.deeds :=
  sights_giveUpUnresolved Event.overlooks_deed loader

@[simp] theorem deeds_noteTarget (name : String) (target : Option Target) :
    (loader.noteTarget name target).deeds = loader.deeds := by
  cases target with
  | none => exact deeds_log ..
  | some target => exact sights_noteTarget Event.overlooks_deed loader name target

end Loader

namespace Machine

variable {machine next : Machine} {loader : Loader} {frames : List Frame} {name : String}

theorem deeds_conclude (machine : Machine) (verdict : Verdict) :
    (machine.conclude verdict).loader.deeds = machine.loader.deeds :=
  Loader.deeds_giveUpUnresolved _

theorem Answers.alone {library : String} {action : Action} {rest : List Action} {answer : Answer}
    (reason : Answers machine frames library action rest answer) :
    Deed.Alone ⟨library, action, answer⟩ := by
  intro result errors same
  cases reason <;> cases same
  rfl

theorem Step.alone (step : Step machine next) (deed : Deed) (member : deed ∈ next.loader.deeds) :
    deed ∈ machine.loader.deeds ∨ deed.Alone := by
  cases step with
  | succeed reason => cases reason <;> exact .inl (by simpa using member)
  | reject reason => cases reason <;> exact .inl (by simpa using member)
  | postpone reason => cases reason <;> exact .inl (by simpa using member)
  | remember reason => cases reason <;> exact .inl (by simpa using member)
  | goOn reason =>
      rw [Loader.deeds_note] at member
      rcases List.mem_append.mp member with old | new
      · exact .inl old
      · exact .inr (List.mem_singleton.mp new ▸ reason.alone)
  | fail reason =>
      rw [Loader.deeds_dropBehind, Loader.deeds_failTarget, Loader.deeds_note] at member
      rcases List.mem_append.mp member with old | new
      · exact .inl old
      · exact .inr (List.mem_singleton.mp new ▸ reason.alone)
  | declare =>
      rw [Loader.deeds_note, Loader.deeds_declare] at member
      rcases List.mem_append.mp member with old | new
      · exact .inl old
      · right
        rw [List.mem_singleton.mp new]
        rintro result errors same
        cases same
  | begin =>
      rw [Loader.deeds_noteTarget, Loader.beginLoad, Loader.deeds_announce] at member
      exact .inl member
  | finish =>
      rw [Loader.endLoad, Loader.deeds_announce] at member
      exact .inl member
  | conclude =>
      rw [deeds_conclude] at member
      exact .inl member
  | advance | enter | descend | call | callAll | resumeNext | sweepNext | sweepEnd | settleNext
    | settleRound | returned | sweptOne | resumedOne | settledOne =>
      exact .inl (by simpa using member)

end Machine

namespace Pass

variable {α : Type}

def collect (pass : Pass) (seen : Machine → Option α) (count : Nat) : List α :=
  (List.range count).filterMap fun moment => seen (pass.state moment)

theorem collect_succ (pass : Pass) (seen : Machine → Option α) (count : Nat) :
    pass.collect seen (count + 1) = pass.collect seen count ++ (seen (pass.state count)).toList := by
  rw [collect, List.range_succ, List.filterMap_append]
  rfl

theorem collect_unseen {pass : Pass} {moment : Nat} (seen : Machine → Option α)
    (unseen : seen (pass.state moment) = none) :
    pass.collect seen (moment + 1) = pass.collect seen moment := by
  rw [collect_succ, unseen, Option.toList_none, List.append_nil]

theorem alone (pass : Pass) (before : ∀ deed ∈ pass.loader.deeds, deed.Alone) (moment : Nat) :
    ∀ deed ∈ (pass.state moment).loader.deeds, deed.Alone := by
  refine pass.induction (motive := fun machine => ∀ deed ∈ machine.loader.deeds, deed.Alone) ?_ ?_ moment
  · intro deed member
    obtain ⟨loader, reachable, action⟩ := pass
    apply before
    cases action with
    | register name dependencies target =>
        rw [← loader.deeds_declare name dependencies target]
        exact member
    | request | requestAll | fail | query => exact member
  · intro current next alone step deed member
    rcases step.alone deed member with old | new
    · exact alone deed old
    · exact new

end Pass

theorem Loader.Reachable.alone {loader : Loader} (reachable : loader.Reachable) :
    ∀ deed ∈ loader.deeds, deed.Alone := by
  refine reachable.of_passes ?_ fun pass => pass.alone
  intro config observed deed member
  cases member

end DemandLoad
