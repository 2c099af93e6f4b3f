import DemandLoad.Proofs.JournalOutlets

namespace DemandLoad

def Event.transition? : Event → Option Transition
  | .logged (.announced transition) => some transition
  | .logged _ | .observed _ | .started _ | .performed _ _ _ => none

namespace Loader

def transitions (loader : Loader) : List Transition := loader.journal.filterMap Event.transition?

/-- The later loader has announced these transitions beyond the earlier one, if they are traced. -/
structure Tells (before after : Loader) (news : List Transition) : Prop where
  config : after.config = before.config
  transitions : after.transitions = before.transitions ++ if before.config.traced then news else []

namespace Tells

variable {first second third : Loader} {news more : List Transition}

theorem of_journal (config : second.config = first.config) (journal : second.journal = first.journal) :
    first.Tells second [] :=
  ⟨config, by simp [Loader.transitions, journal]⟩

theorem refl (loader : Loader) : loader.Tells loader [] := .of_journal rfl rfl

theorem trans (before : first.Tells second news) (after : second.Tells third more) :
    first.Tells third (news ++ more) := by
  refine ⟨after.config.trans before.config, ?_⟩
  rw [after.transitions, before.transitions, before.config, List.append_assoc]
  split <;> rfl

theorem after (later : second.Tells third news) (silent : first.Tells second []) :
    first.Tells third news := silent.trans later

theorem before (earlier : first.Tells second news) (silent : second.Tells third []) :
    first.Tells third news := List.append_nil news ▸ earlier.trans silent

end Tells

end Loader

theorem Mark.told?_abandoned (dropped : List Waiter) :
    (abandoned dropped).filterMap told? = dropped.map Waiter.abandoned := by
  simp [abandoned, List.filterMap_map, Function.comp_def, told?, List.filterMap_eq_map']

namespace Loader

theorem told?_marks (loader : Loader) : (loader.marks .log).filterMap Mark.told? = loader.transitions := by
  rw [marks, transitions, List.filterMap_filterMap]
  congr 1
  funext event
  cases event with
  | logged entry => cases entry <;> rfl
  | observed | started | performed => rfl

theorem Adds.tells {before after : Loader} {news : List Mark} (adds : before.Adds .log after news) :
    before.Tells after (news.filterMap Mark.told?) := by
  refine ⟨adds.config, ?_⟩
  rw [← told?_marks, ← told?_marks, adds.marks, List.filterMap_append, heard, hears]
  split
  · rfl
  · -- What targets do is no transition.
    congr 1
    apply List.filterMap_eq_nil_iff.mpr
    intro mark member
    cases mark with
    | acted library => rfl
    | told transition => cases (List.mem_filter.mp member).2

variable (loader : Loader)

theorem tells_note (event : Event) (silent : event.transition? = none) :
    loader.Tells (loader.note event) [] :=
  ⟨rfl, by simp [transitions, note, silent]⟩

theorem tells_announce (transition : Transition) : loader.Tells (loader.announce transition) [transition] :=
  (loader.adds_announce transition).tells

theorem tells_defer (name blocker : String) : loader.Tells (loader.defer name blocker)
    (if (loader.tracker.defer name blocker).2 then [.deferred name blocker] else []) := by
  have adds : loader.Adds .log _ _ := loader.adds_defer name blocker
  have tells := adds.tells
  cases new : (loader.tracker.defer name blocker).2 <;> rw [new] at tells <;> exact tells

theorem tells_dropBehind (name : String) :
    loader.Tells (loader.dropBehind name) ((loader.tracker.drop [name]).2.map Waiter.abandoned) :=
  Mark.told?_abandoned _ ▸ (loader.adds_dropBehind name).tells

theorem tells_remember (name : String) : loader.Tells (loader.remember name) [] :=
  (loader.adds_remember name).tells

theorem tells_orphan (result : Except LoadError Outcome) : loader.Tells (loader.orphan result) [] :=
  (loader.adds_orphan result).tells

theorem tells_declare (name : String) (dependencies : List String) (target : Target) :
    loader.Tells (loader.declare name dependencies target) [] :=
  (loader.adds_declare name dependencies target).tells

theorem tells_noteTarget (name : String) (target : Option Target) :
    loader.Tells (loader.noteTarget name target) [] := by
  have adds : loader.Adds .log _ _ := loader.adds_noteTarget name target
  have tells := adds.tells
  cases target with
  | none => exact tells
  | some target => cases target <;> exact tells

theorem tells_failTarget (name cause : String) (loading : loader.status name = .loading)
    (sound : loader.isFailed name = false) : loader.Tells (loader.failTarget name cause).1
      (.failed name :: (loader.tracker.drop [name]).2.map Waiter.abandoned) :=
  Mark.told?_abandoned _ ▸ (loader.adds_failTarget name cause loading sound).tells

theorem tells_giveUpUnresolved : loader.Tells loader.giveUpUnresolved.1
    ((loader.tracker.drop loader.unresolved).2.map Waiter.abandoned) :=
  Mark.told?_abandoned _ ▸ loader.adds_giveUpUnresolved.tells

end Loader

def Frame.drains (blocker : String) : Frame → List String
  | .resuming library rest => if library = blocker then rest else []
  | .walking _ _ _ | .requesting _ _ | .sweeping _ _ _ _ | .settling _ _ => []

def Control.drains (blocker : String) : Control → List String
  | .resume library waiting => if library = blocker then waiting else []
  | _ => []

def Transition.Plain (drain : Option String) : Transition → Prop
  | .deferred _ _ | .abandoned _ _ | .loaded _ => False
  | .resumed _ => drain = none
  | .requested _ | .loading _ | .failed _ => True

namespace Machine

variable {machine next : Machine} {loader : Loader} {frames : List Frame} {name blocker : String}

/-- What was queued on `blocker` when it was loaded, and has still to be resumed. -/
def drains (machine : Machine) (blocker : String) : List String :=
  machine.control.drains blocker ++ machine.frames.flatMap (Frame.drains blocker)

def drain? (machine : Machine) : Option String :=
  match machine.control with
  | .resume library (_ :: _) => some library
  | _ => none

/-- How a step changes the queues, and the transitions that it announces. -/
inductive Dealt (machine next : Machine) : List Transition → Prop
  | quiet {news : List Transition} (plain : ∀ transition ∈ news, transition.Plain machine.drain?)
      (queue : next.loader.tracker.queue = machine.loader.tracker.queue)
      (drains : next.drains = machine.drains) : Dealt machine next news
  | joined {others : List Transition} (name blocker : String)
      (plain : ∀ transition ∈ others, transition.Plain machine.drain?)
      (reason : ∃ loader frames, Postpones machine loader frames name blocker)
      (queue : next.loader.tracker.queue = (machine.loader.tracker.defer name blocker).1.queue)
      (drains : next.drains = machine.drains) :
      Dealt machine next (others ++
        if (machine.loader.tracker.defer name blocker).2 then [.deferred name blocker] else [])
  | dropped (others : List Transition) (roots : List String)
      (plain : ∀ transition ∈ others, transition.Plain machine.drain?)
      (rooted : (∃ culprit, roots = [culprit] ∧ machine.Ends next culprit) ∨
        roots = machine.loader.unresolved ∧ ∃ answer, next.control = .done answer)
      (queue : next.loader.tracker.queue = (machine.loader.tracker.drop roots).1.queue)
      (drains : next.drains = machine.drains) :
      Dealt machine next (others ++ (machine.loader.tracker.drop roots).2.map Waiter.abandoned)
  | loaded (name : String) (loading : machine.loader.status name = .loading)
      (ended : next.loader.status name = .loaded)
      (queue : ∀ blocker, next.loader.tracker.queue blocker =
        if blocker = name then [] else machine.loader.tracker.queue blocker)
      (drains : ∀ blocker, next.drains blocker =
        (if name = blocker then (machine.loader.tracker.queue name).filter (· ≠ name) else []) ++
          machine.drains blocker) :
      Dealt machine next [.loaded name]
  | resumed (library name : String) (drain : machine.drain? = some library)
      (queue : next.loader.tracker.queue = machine.loader.tracker.queue)
      (drains : ∀ blocker, machine.drains blocker =
        (if library = blocker then [name] else []) ++ next.drains blocker) :
      Dealt machine next [.resumed name]

def Deals (machine next : Machine) : Prop :=
  ∃ news, machine.loader.Tells next.loader news ∧ Dealt machine next news

theorem Deals.of_quiet (tells : machine.loader.Tells next.loader [])
    (queue : next.loader.tracker.queue = machine.loader.tracker.queue)
    (drains : next.drains = machine.drains) : machine.Deals next :=
  ⟨[], tells, .quiet (by simp) queue drains⟩

theorem Deals.of_one (transition : Transition) (plain : transition.Plain machine.drain?)
    (tells : machine.loader.Tells next.loader [transition])
    (queue : next.loader.tracker.queue = machine.loader.tracker.queue)
    (drains : next.drains = machine.drains) : machine.Deals next :=
  ⟨[transition], tells, .quiet (by simpa using plain) queue drains⟩

theorem Succeeds.deals {outcome : Outcome} (reason : Succeeds machine loader frames name outcome) :
    machine.Deals ⟨loader, frames, .answered (.ok outcome)⟩ := by
  cases reason with
  | loadedBefore => exact .of_one (.requested name) trivial (Loader.tells_announce ..) rfl rfl
  | loadedMeanwhile => exact .of_quiet (.refl _) rfl rfl
  | resumedAll =>
      refine .of_quiet (.refl _) rfl ?_
      funext blocker
      simp [drains, Control.drains]

theorem Remembers.deals (reason : Remembers machine loader frames name) :
    machine.Deals ⟨loader.remember name, frames, .answered (.ok .deferred)⟩ := by
  cases reason with
  | undeclared =>
      refine .of_one (.requested name) trivial ?_ (by simp) rfl
      exact (Loader.tells_announce ..).before (Loader.tells_remember ..)
  | vanished => exact .of_quiet (Loader.tells_remember ..) (by simp) rfl

theorem Rejects.tells {error : LoadError} (reason : Rejects machine loader frames name error) :
    ∃ others, machine.loader.Tells loader others ∧
      ∀ transition ∈ others, transition.Plain machine.drain? := by
  cases reason
  case failedBefore => exact ⟨[.requested name], Loader.tells_announce .., by simp [Transition.Plain]⟩
  case cycle =>
    exact ⟨[.requested name], (Loader.tells_announce ..).before (.of_journal rfl rfl),
      by simp [Transition.Plain]⟩
  all_goals exact ⟨[], .refl _, by simp⟩

theorem Rejects.deals {error : LoadError} (reason : Rejects machine loader frames name error) :
    machine.Deals ⟨loader.dropBehind name, frames, .answered (.error error)⟩ := by
  obtain ⟨others, tells, plain⟩ := reason.tells
  have dropped := tells.trans (loader.tells_dropBehind name)
  rw [reason.tracker_eq] at dropped
  refine ⟨_, dropped, .dropped others [name] plain (.inl ⟨name, rfl, .rejected reason⟩) ?_ ?_⟩
  · rw [Loader.tracker_dropBehind, reason.tracker_eq]
  · cases reason <;> rfl

theorem Postpones.tells (reason : Postpones machine loader frames name blocker) :
    ∃ others, machine.loader.Tells loader others ∧
      ∀ transition ∈ others, transition.Plain machine.drain? := by
  cases reason
  case itself => exact ⟨[.requested name], Loader.tells_announce .., by simp [Transition.Plain]⟩
  all_goals exact ⟨[], .refl _, by simp⟩

theorem Postpones.deals (reason : Postpones machine loader frames name blocker) :
    machine.Deals ⟨loader.defer name blocker, frames, .answered (.ok .deferred)⟩ := by
  obtain ⟨others, tells, plain⟩ := reason.tells
  have joined := tells.trans (loader.tells_defer name blocker)
  rw [reason.tracker_eq] at joined
  refine ⟨_, joined, .joined name blocker plain ⟨loader, frames, reason⟩ ?_ ?_⟩
  · rw [Loader.tracker_defer, reason.tracker_eq]
  · cases reason <;> rfl

theorem Answers.drains_eq {library : String} {action : Action} {rest : List Action} {answer : Answer}
    (reason : Answers machine frames library action rest answer) :
    machine.drains = fun blocker => frames.flatMap (Frame.drains blocker) := by
  cases reason <;> rfl

theorem Active.deals_fail {library : String} {action : Action} {rest : List Action} {answer : Answer}
    {cause : String} (active : machine.Active)
    (reason : Answers machine frames library action rest answer) (error : LoadError) :
    machine.Deals ⟨((machine.loader.note (.performed library action answer)).failTarget library cause).1.dropBehind
      library, frames, .answered (.error error)⟩ := by
  have busy := active.of_answers reason
  have failed := (machine.loader.note (.performed library action answer)).tells_failTarget library cause
    busy.1 busy.2
  have none_left : ((((machine.loader.note (.performed library action answer)).failTarget library
      cause).1.tracker).drop [library]).2 = [] := by
    rw [(active.failTarget_eq reason _ _).1]
    apply List.map_eq_nil_iff (f := Waiter.library).mp
    apply List.eq_nil_iff_forall_not_mem.mpr
    intro waiter member
    obtain ⟨behind, apart⟩ := (Tracker.mem_drop ..).mp member
    refine apart (behind.closed (motive := (· ∈ [library])) (fun _ root => root) ?_)
    intro blocker other queued root
    have drained := Tracker.queue_drop_of_behind (machine.loader.tracker.failing library) [library] blocker
      (.root root)
    rw [drained] at queued
    cases queued
  have dropped := Loader.tells_dropBehind
    ((machine.loader.note (.performed library action answer)).failTarget library cause).1 library
  rw [none_left] at dropped
  refine ⟨_, (failed.before dropped).after (Loader.tells_note _ _ rfl),
    .dropped [.failed library] [library] (by simp [Transition.Plain])
      (.inl ⟨library, rfl, .failed (active.isFailed_fail reason _ _)⟩) ?_ ?_⟩
  · funext blocker
    exact active.queue_fail reason _ _ blocker
  · exact reason.drains_eq.symm

theorem Step.deals (active : machine.Active) (step : Step machine next) : machine.Deals next := by
  cases step with
  | succeed reason => exact reason.deals
  | reject reason => exact reason.deals
  | postpone reason => exact reason.deals
  | remember reason => exact reason.deals
  | fail reason failing => exact active.deals_fail reason _
  | goOn reason sound => exact .of_quiet (Loader.tells_note _ _ rfl) rfl reason.drains_eq.symm
  | advance reason => cases reason <;> exact .of_quiet (.refl _) rfl rfl
  | @enter _ _ name =>
      exact .of_one (.requested name) trivial
        ((Loader.tells_announce ..).before (.of_journal rfl rfl)) rfl rfl
  | @begin loader frames name target registry idle taken =>
      refine .of_one (.loading name) trivial ?_ ?_ rfl
      · have begun : loader.Tells (loader.beginLoad name registry) [.loading name] :=
          (Loader.tells_announce ..).after (.of_journal rfl rfl)
        exact begun.before (Loader.tells_noteTarget ..)
      · rw [Loader.tracker_noteTarget]
        rfl
  | @finish loader frames name tracker waiting finished =>
      obtain ⟨loading, -, -, taken⟩ := Tracker.finish_eq_ok finished
      have ended : loader.Tells (loader.endLoad name tracker) [.loaded name] :=
        (Loader.tells_announce { loader with tracker } _).after (.of_journal rfl rfl)
      have loaded : tracker.status name = .loaded := (Tracker.status_finish finished name).trans (if_pos rfl)
      exact ⟨_, ended, .loaded name loading loaded (Tracker.queue_finish finished) (fun _ => taken ▸ rfl)⟩
  | declare =>
      refine .of_quiet ((Loader.tells_declare ..).before (Loader.tells_note _ _ rfl)) ?_ rfl
      rw [Loader.tracker_note, Loader.tracker_declare]
  | @conclude loader frames verdict settled =>
      refine ⟨_, (Loader.tells_giveUpUnresolved loader.takeErrors.1).after (.of_journal rfl rfl),
        .dropped [] loader.unresolved (by simp) (.inr ⟨rfl, _, rfl⟩) ?_ rfl⟩
      simp only [Machine.conclude, goto, withLoader, Loader.tracker_giveUpUnresolved]
      rfl
  | @resumeNext loader frames library name rest =>
      refine ⟨_, Loader.tells_announce .., .resumed library name rfl rfl ?_⟩
      intro blocker
      by_cases same : library = blocker <;> simp [drains, Control.drains, Frame.drains, same]
  | @settleNext loader _ _ name _ =>
      exact .of_one (.resumed name) rfl
        ((Loader.tells_announce ..).after (.of_journal rfl rfl)) rfl rfl
  | resumedOne | settledOne => exact .of_quiet (Loader.tells_orphan ..) (by rw [Loader.tracker_orphan]) rfl
  | descend | call | callAll | sweepNext | sweepEnd | settleRound | returned | sweptOne =>
      exact .of_quiet (.refl _) rfl rfl

end Machine

end DemandLoad
