import DemandLoad.Proofs.PassRuns

namespace DemandLoad

structure Event.Overlooks {α : Type} (see : Event → Option α) : Prop where
  observed : ∀ transition, see (.observed transition) = none
  logged : ∀ entry, (∀ name, entry ≠ .targetMissing name) → see (.logged entry) = none
  started : ∀ name, see (.started name) = none

namespace Loader

variable {α : Type} {see : Event → Option α}

def sights (see : Event → Option α) (loader : Loader) : List α := loader.journal.filterMap see

theorem sights_note (see : Event → Option α) (loader : Loader) (event : Event) :
    (loader.note event).sights see = loader.sights see ++ (see event).toList := by
  cases seen : see event <;> simp [sights, note, seen]

section Overlooked

variable (overlooks : Event.Overlooks see) (loader : Loader)
include overlooks

theorem sights_announcement (transition : Transition) :
    (loader.announcement transition).filterMap see = [] := by
  unfold announcement
  split
  · split <;> simp [overlooks.observed, overlooks.logged]
  · rfl

theorem sights_log (entry : LogEntry) (plain : ∀ name, entry ≠ .targetMissing name) :
    (loader.log entry).sights see = loader.sights see := by
  rw [log, sights_note, overlooks.logged entry plain]
  exact List.append_nil _

theorem sights_announce (transition : Transition) :
    (loader.announce transition).sights see = loader.sights see := by
  simp [sights, announce, sights_announcement overlooks]

theorem sights_announceAbandoned (dropped : List Waiter) :
    (loader.announceAbandoned dropped).sights see = loader.sights see := by
  simp [sights, announceAbandoned, List.filterMap_flatMap, sights_announcement overlooks]

theorem sights_defer (name blocker : String) :
    (loader.defer name blocker).sights see = loader.sights see := by
  simp only [defer]
  split
  · exact sights_announce overlooks _ _
  · rfl

theorem sights_dropBehind (name : String) : (loader.dropBehind name).sights see = loader.sights see :=
  sights_announceAbandoned overlooks _ _

omit overlooks in
theorem sights_remember (name : String) : (loader.remember name).sights see = loader.sights see := by
  unfold remember
  split <;> rfl

omit overlooks in
theorem sights_forget (name : String) : (loader.forget name).sights see = loader.sights see := rfl

omit overlooks in
theorem sights_orphan (result : Except LoadError Outcome) :
    (loader.orphan result).sights see = loader.sights see := by
  cases result with
  | ok outcome => rfl
  | error error => simp only [orphan]; split <;> rfl

theorem sights_declare (name : String) (dependencies : List String) (target : Target) :
    (loader.declare name dependencies target).sights see = loader.sights see := by
  unfold declare
  repeat' split
  all_goals first | rfl | exact sights_log overlooks _ _ (by simp)

theorem sights_failTarget (name cause : String) :
    (loader.failTarget name cause).1.sights see = loader.sights see := by
  unfold failTarget
  split
  · rfl
  · exact (sights_announceAbandoned overlooks _ _).trans
      ((sights_announce overlooks _ _).trans (sights_log overlooks _ _ (by simp)))

theorem sights_giveUpUnresolved : loader.giveUpUnresolved.1.sights see = loader.sights see := by
  unfold giveUpUnresolved
  split
  · rfl
  · exact (sights_log overlooks _ _ (by simp)).trans (sights_announceAbandoned overlooks _ _)

theorem sights_noteTarget (name : String) (target : Target) :
    (loader.noteTarget name (some target)).sights see = loader.sights see := by
  cases target with
  | noop => rfl
  | program actions =>
      refine (sights_note see loader (.started name)).trans ?_
      rw [overlooks.started]
      exact List.append_nil _

end Overlooked

/-- Both loaders announce their transitions in the same way. -/
structure SameOutlets (one other : Loader) : Prop where
  config : other.config = one.config
  observed : other.observed = one.observed

namespace SameOutlets

variable {first second third : Loader}

theorem symm (same : first.SameOutlets second) : second.SameOutlets first := ⟨same.config.symm, same.observed.symm⟩

theorem trans (before : first.SameOutlets second) (after : second.SameOutlets third) : first.SameOutlets third :=
  ⟨after.config.trans before.config, after.observed.trans before.observed⟩

theorem announcement_eq (same : first.SameOutlets second) (transition : Transition) :
    second.announcement transition = first.announcement transition := by
  rw [announcement, same.config, same.observed, announcement]

end SameOutlets

/-- The later loader has the same outlets, and its journal extends the earlier one. -/
structure Grows (before after : Loader) : Prop extends SameOutlets before after where
  journal : before.journal <+: after.journal

/-- The events of the later journal beyond the earlier one. -/
def since (before after : Loader) : List Event := after.journal.drop before.journal.length

theorem Grows.sights_eq {before after : Loader} (grows : before.Grows after) (see : Event → Option α) :
    after.sights see = before.sights see ++ (before.since after).filterMap see := by
  obtain ⟨events, grown⟩ := grows.journal
  rw [sights, sights, since, ← grown, List.filterMap_append, List.drop_left]

namespace Grows

variable {first second third : Loader}

theorem of_append (config : second.config = first.config) (observed : second.observed = first.observed)
    {events : List Event} (journal : second.journal = first.journal ++ events) : first.Grows second :=
  ⟨⟨config, observed⟩, journal ▸ List.prefix_append ..⟩

theorem of_same (config : second.config = first.config) (observed : second.observed = first.observed)
    (journal : second.journal = first.journal) : first.Grows second :=
  ⟨⟨config, observed⟩, journal ▸ List.prefix_rfl⟩

theorem refl (loader : Loader) : loader.Grows loader := .of_same rfl rfl rfl

theorem trans (before : first.Grows second) (after : second.Grows third) : first.Grows third :=
  ⟨before.toSameOutlets.trans after.toSameOutlets, before.journal.trans after.journal⟩

end Grows

section Growing

variable (loader : Loader)

theorem grows_note (event : Event) : loader.Grows (loader.note event) := .of_append rfl rfl rfl

theorem grows_announce (transition : Transition) : loader.Grows (loader.announce transition) :=
  .of_append rfl rfl rfl

theorem grows_defer (name blocker : String) : loader.Grows (loader.defer name blocker) := by
  simp only [defer]
  split
  · exact .of_append rfl rfl rfl
  · exact .of_same rfl rfl rfl

theorem grows_dropBehind (name : String) : loader.Grows (loader.dropBehind name) := .of_append rfl rfl rfl

theorem grows_remember (name : String) : loader.Grows (loader.remember name) := by
  unfold remember
  split <;> exact .of_same rfl rfl rfl

theorem grows_orphan (result : Except LoadError Outcome) : loader.Grows (loader.orphan result) := by
  cases result with
  | ok outcome => exact .refl loader
  | error error => simp only [orphan]; split <;> exact .of_same rfl rfl rfl

theorem grows_declare (name : String) (dependencies : List String) (target : Target) :
    loader.Grows (loader.declare name dependencies target) := by
  unfold declare
  repeat' split
  all_goals first | exact .of_same rfl rfl rfl | exact .of_append rfl rfl rfl

theorem grows_begin (name : String) (registry : Registry Target) (target : Option Target) :
    loader.Grows ((loader.beginLoad name registry).noteTarget name target) := by
  have begun : loader.Grows (loader.beginLoad name registry) := .of_append rfl rfl rfl
  cases target with
  | none => exact begun.trans (grows_note ..)
  | some target =>
      cases target with
      | noop => exact begun
      | program actions => exact begun.trans (grows_note ..)

theorem grows_failTarget (name cause : String) : loader.Grows (loader.failTarget name cause).1 := by
  unfold failTarget
  split
  · exact .refl loader
  case h_2 tracker dropped failed =>
    have logged : loader.Grows ({ loader with tracker }.log (.targetFailed ⟨name, cause⟩ dropped.length)) :=
      .of_append rfl rfl rfl
    exact logged.trans ((grows_announce _ (.failed name)).trans (.of_append rfl rfl rfl))

theorem grows_giveUpUnresolved : loader.Grows loader.giveUpUnresolved.1 := by
  unfold giveUpUnresolved
  split
  · exact .refl loader
  case h_2 first others missing =>
    have told : loader.Grows
        ({ loader with
            tracker := (loader.tracker.drop (first :: others)).1
            unresolved := [] }.announceAbandoned (loader.tracker.drop (first :: others)).2) :=
      .of_append rfl rfl rfl
    exact told.trans (grows_note ..)

end Growing

end Loader

theorem Machine.Step.grows {machine next : Machine} (step : Step machine next) :
    machine.loader.Grows next.loader := by
  cases step with
  | succeed reason =>
      cases reason with
      | loadedBefore => exact Loader.grows_announce ..
      | loadedMeanwhile | resumedAll => exact .refl _
  | reject reason =>
      refine Loader.Grows.trans ?_ (Loader.grows_dropBehind ..)
      cases reason with
      | failedBefore | cycle => exact .of_append rfl rfl rfl
      | dependencyFailed | failedMeanwhile | refused | passedOn => exact .refl _
  | postpone reason =>
      refine Loader.Grows.trans ?_ (Loader.grows_defer ..)
      cases reason with
      | itself => exact Loader.grows_announce ..
      | itselfMeanwhile | dependencyLoading | dependencyWaits => exact .refl _
  | remember reason =>
      refine Loader.Grows.trans ?_ (Loader.grows_remember ..)
      cases reason with
      | undeclared => exact Loader.grows_announce ..
      | vanished => exact .refl _
  | begin => exact Loader.grows_begin ..
  | declare => exact (Loader.grows_declare ..).trans (Loader.grows_note ..)
  | goOn => exact Loader.grows_note ..
  | fail => exact (Loader.grows_note ..).trans ((Loader.grows_failTarget ..).trans (Loader.grows_dropBehind ..))
  | enter | finish | resumeNext | settleNext => exact .of_append rfl rfl rfl
  | @conclude loader _ _ _ =>
      have taken : loader.Grows loader.takeErrors.1 := .of_same rfl rfl rfl
      exact taken.trans loader.takeErrors.1.grows_giveUpUnresolved
  | resumedOne | settledOne => exact Loader.grows_orphan ..
  | advance | descend | call | callAll | sweepNext | sweepEnd | settleRound | returned | sweptOne => exact .refl _

namespace Pass

variable {first last : Nat}

theorem grows (pass : Pass) (order : first ≤ last) :
    (pass.state first).loader.Grows (pass.state last).loader := by
  induction order with
  | refl => exact .refl _
  | @step between _ ih =>
      rcases pass.state_cases between with same | step
      · rwa [same]
      · exact ih.trans step.grows

theorem grows_start (pass : Pass) : pass.loader.Grows (pass.state 0).loader := by
  obtain ⟨loader, reachable, action⟩ := pass
  cases action with
  | register name dependencies target => exact loader.grows_declare name dependencies target
  | request | requestAll | fail | query => exact .refl loader

theorem grows_since_start (pass : Pass) (moment : Nat) : pass.loader.Grows (pass.state moment).loader :=
  pass.grows_start.trans (pass.grows (Nat.zero_le moment))

end Pass

theorem Loader.Reachable.grows {loader : Loader} (reachable : loader.Reachable) (action : Action) :
    loader.Grows (loader.perform action).1 := by
  let pass : Pass := ⟨loader, reachable, action⟩
  exact pass.perform_of_always pass.grows_since_start

end DemandLoad
