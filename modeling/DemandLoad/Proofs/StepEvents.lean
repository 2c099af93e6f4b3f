import DemandLoad.Proofs.BreadthFirstDrop
import DemandLoad.Proofs.JournalOutlets

namespace DemandLoad

namespace Machine

variable {machine next : Machine} {loader : Loader} {frames : List Frame} {name blocker : String}
  {outlet : Outlet}

inductive Aside (machine : Machine) : Mark → Prop
  | requested {name : String} (control : machine.control = .drive name) : Aside machine (.told (.requested name))
  | deferred {name blocker : String} (reason : ∃ loader frames, Postpones machine loader frames name blocker) :
      Aside machine (.told (.deferred name blocker))
  | resumed {name : String} (control : (∃ library rest, machine.control = .resume library (name :: rest)) ∨
        ∃ verdict rest, machine.control = .settle verdict (name :: rest)) :
      Aside machine (.told (.resumed name))
  | abandoned {name blocker : String} (queued : name ∈ machine.loader.tracker.queue blocker) :
      Aside machine (.told (.abandoned name blocker))

/-- What a step emits, and how it changes the running targets. -/
inductive Emits (machine next : Machine) : List Mark → Prop
  | still {news : List Mark} (asides : ∀ mark ∈ news, machine.Aside mark)
      (asked : ∀ name, machine.control = .drive name → .told (.requested name) ∈ news)
      (running : next.running = machine.running) : Emits machine next news
  | acts (library : String) {below : List String} (apart : ∀ name, machine.control ≠ .drive name)
      (runs : machine.running = library :: below) (running : next.running = machine.running) :
      Emits machine next [.acted library]
  | begins (name : String) (target : Option Target) (control : machine.control = .walk name [])
      (running : next.running = name :: machine.running) :
      Emits machine next (.told (.loading name) :: Loader.startMarks name target)
  | ends (name : String) (control : machine.control = .perform name [])
      (ended : next.loader.status name = .loaded) (running : machine.running = name :: next.running) :
      Emits machine next [.told (.loaded name)]
  | fails (name : String) {others : List Mark} (apart : ∀ name, machine.control ≠ .drive name)
      (failed : next.loader.isFailed name = true)
      (asides : ∀ mark ∈ others, machine.Aside mark) (running : machine.running = name :: next.running) :
      Emits machine next (.acted name :: .told (.failed name) :: others)

def Publishes (outlet : Outlet) (machine next : Machine) : Prop :=
  ∃ news, machine.loader.Adds outlet next.loader news ∧ machine.Emits next news

theorem asides_of_drop (machine : Machine) (roots : List String) :
    ∀ mark ∈ Mark.abandoned (machine.loader.tracker.drop roots).2, machine.Aside mark := by
  intro mark member
  obtain ⟨waiter, dropped, rfl⟩ := List.mem_map.mp member
  exact .abandoned (Tracker.queued_of_drop dropped)

theorem Publishes.of_quiet (apart : ∀ name, machine.control ≠ .drive name)
    (adds : machine.loader.Adds outlet next.loader []) (running : next.running = machine.running) :
    machine.Publishes outlet next :=
  ⟨[], adds, .still (by simp) (fun name control => absurd control (apart name)) running⟩

def news (outlet : Outlet) (machine next : Machine) : List Mark :=
  (next.loader.marks outlet).drop (machine.loader.marks outlet).length

theorem news_eq {news : List Mark} (adds : machine.loader.Adds outlet next.loader news) :
    machine.news outlet next = machine.loader.heard outlet news := by
  rw [Machine.news, adds.marks, List.drop_left]

structure Opens (outlet : Outlet) (machine : Machine) (loader : Loader) (news : List Mark) : Prop where
  adds : machine.loader.Adds outlet loader news
  asides : ∀ mark ∈ news, machine.Aside mark
  asked : ∀ name, machine.control = .drive name → .told (.requested name) ∈ news

theorem Opens.drive {later : Loader}
    (adds : (loader.announce (.requested name)).Adds outlet later []) :
    Opens outlet ⟨loader, frames, .drive name⟩ later [.told (.requested name)] := by
  refine ⟨(Loader.adds_announce ..).before adds, ?_, ?_⟩
  · intro mark member
    cases List.mem_singleton.mp member
    exact .requested rfl
  · rintro other ⟨⟩
    exact List.mem_cons_self ..

theorem Opens.refl (apart : ∀ name, machine.control ≠ .drive name) : Opens outlet machine machine.loader [] :=
  ⟨.refl _, by simp, fun name control => absurd control (apart name)⟩

theorem Opens.publishes {news more : List Mark} (opens : Opens outlet machine loader news)
    (adds : loader.Adds outlet next.loader more) (asides : ∀ mark ∈ more, machine.Aside mark)
    (running : next.running = machine.running) : machine.Publishes outlet next := by
  refine ⟨news ++ more, opens.adds.trans adds, .still ?_ ?_ running⟩
  · intro mark member
    exact (List.mem_append.mp member).elim (opens.asides mark) (asides mark)
  · exact fun name control => List.mem_append_left _ (opens.asked name control)

theorem Answers.apart_drive {library : String} {action : Action} {rest : List Action} {answer : Answer}
    (reason : Answers machine frames library action rest answer) (name : String) :
    machine.control ≠ .drive name := by
  cases reason <;> simp

theorem Succeeds.opens {outcome : Outcome} (reason : Succeeds machine loader frames name outcome)
    (outlet : Outlet) : ∃ news, Opens outlet machine loader news := by
  cases reason with
  | loadedBefore => exact ⟨_, .drive (.refl _)⟩
  | loadedMeanwhile | resumedAll => exact ⟨_, .refl (by simp)⟩

theorem Rejects.opens {error : LoadError} (reason : Rejects machine loader frames name error)
    (outlet : Outlet) : ∃ news, Opens outlet machine loader news := by
  cases reason with
  | failedBefore => exact ⟨_, .drive (.refl _)⟩
  | cycle => exact ⟨_, .drive (Loader.adds_forget ..)⟩
  | dependencyFailed | failedMeanwhile | refused | passedOn => exact ⟨_, .refl (by simp)⟩

theorem Postpones.opens (reason : Postpones machine loader frames name blocker)
    (outlet : Outlet) : ∃ news, Opens outlet machine loader news := by
  cases reason with
  | itself => exact ⟨_, .drive (.refl _)⟩
  | itselfMeanwhile | dependencyLoading | dependencyWaits => exact ⟨_, .refl (by simp)⟩

theorem Remembers.opens (reason : Remembers machine loader frames name)
    (outlet : Outlet) : ∃ news, Opens outlet machine loader news := by
  cases reason with
  | undeclared => exact ⟨_, .drive (.refl _)⟩
  | vanished => exact ⟨_, .refl (by simp)⟩

theorem Postpones.publishes (reason : Postpones machine loader frames name blocker) :
    machine.Publishes outlet ⟨loader.defer name blocker, frames, .answered (.ok .deferred)⟩ := by
  obtain ⟨news, opens⟩ := reason.opens outlet
  refine opens.publishes (loader.adds_defer name blocker) ?_ reason.running_eq
  intro mark member
  split at member
  · cases List.mem_singleton.mp member
    exact .deferred ⟨loader, frames, reason⟩
  · cases member

theorem Rejects.publishes {error : LoadError} (active : machine.Active)
    (reason : Rejects machine loader frames name error) :
    machine.Publishes outlet ⟨loader.dropBehind name, frames, .answered (.error error)⟩ := by
  obtain ⟨news, opens⟩ := reason.opens outlet
  refine opens.publishes (loader.adds_dropBehind name) ?_ ?_
  · rw [reason.tracker_eq]
    exact machine.asides_of_drop [name]
  · cases reason
    case refused unfinished => exact absurd unfinished active.not_refused
    all_goals rfl

theorem Active.publishes_fail {library : String} {action : Action} {rest : List Action} {answer : Answer}
    {cause : String} (active : machine.Active)
    (reason : Answers machine frames library action rest answer) (error : LoadError) :
    machine.Publishes outlet ⟨((machine.loader.note (.performed library action answer)).failTarget library
      cause).1.dropBehind library, frames, .answered (.error error)⟩ := by
  have busy := active.of_answers reason
  have acted : machine.loader.Adds outlet _ _ := machine.loader.adds_performed library action answer
  have failed := acted.trans (Loader.adds_failTarget _ library cause busy.1 busy.2)
  have dropped := failed.trans (Loader.adds_dropBehind _ library)
  refine ⟨_, dropped,
    .fails library reason.apart_drive (active.isFailed_fail reason _ _) ?_ reason.running⟩
  intro mark member
  rcases List.mem_append.mp member with first | again
  · exact machine.asides_of_drop [library] mark first
  · -- The rejection drops once more, from what is left of the queues.
    obtain ⟨waiter, left, rfl⟩ := List.mem_map.mp again
    have queued := Tracker.queued_of_drop left
    rw [(active.failTarget_eq reason _ _).1] at queued
    exact .abandoned (Tracker.queue_drop_subset _ _ _ queued)

theorem Step.publishes (active : machine.Active) (step : Step machine next) (outlet : Outlet) :
    machine.Publishes outlet next := by
  cases step with
  | succeed reason =>
      obtain ⟨news, opens⟩ := reason.opens outlet
      exact opens.publishes (.refl _) (by simp) (by cases reason <;> rfl)
  | reject reason => exact reason.publishes active
  | postpone reason => exact reason.publishes
  | remember reason =>
      obtain ⟨news, opens⟩ := reason.opens outlet
      exact opens.publishes (Loader.adds_remember ..) (by simp) (by cases reason <;> rfl)
  | enter => exact (Opens.drive (Loader.adds_forget ..)).publishes (.refl _) (by simp) rfl
  | advance reason =>
      cases reason
      all_goals exact .of_quiet (by simp) (.refl _) rfl
  | begin idle taken =>
      exact ⟨_, (Loader.adds_beginLoad ..).trans (Loader.adds_noteTarget ..), .begins _ _ rfl rfl⟩
  | finish finished =>
      exact ⟨_, Loader.adds_endLoad .., .ends _ rfl ((Tracker.status_finish finished _).trans (if_pos rfl)) rfl⟩
  | declare => exact ⟨_, (Loader.adds_performed ..).after (Loader.adds_declare ..), .acts _ (by simp) rfl rfl⟩
  | goOn reason sound =>
      exact ⟨_, Loader.adds_performed .., .acts _ reason.apart_drive reason.running reason.running.symm⟩
  | fail reason failing => exact active.publishes_fail reason _
  | @resumeNext _ _ _ name =>
      refine ⟨[.told (.resumed name)], Loader.adds_announce .., .still ?_ (by simp) rfl⟩
      intro mark member
      cases List.mem_singleton.mp member
      exact .resumed (.inl ⟨_, _, rfl⟩)
  | @settleNext _ _ _ name =>
      refine ⟨[.told (.resumed name)], (Loader.adds_announce ..).after (Loader.adds_forget ..),
        .still ?_ (by simp) rfl⟩
      intro mark member
      cases List.mem_singleton.mp member
      exact .resumed (.inr ⟨_, _, rfl⟩)
  | @conclude loader _ _ =>
      refine ⟨_, (Loader.adds_giveUpUnresolved loader.takeErrors.1).after (.of_journal rfl rfl rfl),
        .still ?_ (by simp) rfl⟩
      exact asides_of_drop ⟨loader, _, _⟩ loader.unresolved
  | resumedOne | settledOne => exact .of_quiet (by simp) (Loader.adds_orphan ..) rfl
  | descend | call | callAll | sweepNext | sweepEnd | settleRound | returned | sweptOne =>
      exact .of_quiet (by simp) (.refl _) rfl

/-- Only a queued request is announced as abandoned. -/
theorem Step.queued_of_abandoned (active : machine.Active) (step : Step machine next)
    (told : .told (.abandoned name blocker) ∈ machine.news outlet next) :
    name ∈ machine.loader.tracker.queue blocker := by
  obtain ⟨news, adds, emits⟩ := step.publishes active outlet
  rw [news_eq adds] at told
  have member := machine.loader.heard_subset outlet news told
  have queued : ∀ others : List Mark, (∀ mark ∈ others, machine.Aside mark) →
      .told (.abandoned name blocker) ∈ others → name ∈ machine.loader.tracker.queue blocker := by
    intro others asides inside
    cases asides _ inside with
    | abandoned queued => exact queued
  cases emits with
  | still asides asked running => exact queued _ asides member
  | acts => cases List.mem_singleton.mp member
  | ends => cases List.mem_singleton.mp member
  | begins started target =>
      rcases List.mem_cons.mp member with equal | act
      · cases equal
      · exact absurd act (Loader.told_not_mem_startMarks _ _ _)
  | fails failing apart failed asides =>
      rcases List.mem_cons.mp member with equal | member
      · cases equal
      rcases List.mem_cons.mp member with equal | inside
      · cases equal
      · exact queued _ asides inside

end Machine

end DemandLoad
