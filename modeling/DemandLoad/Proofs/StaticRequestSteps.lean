import DemandLoad.Proofs.StaticRequests

namespace DemandLoad

namespace Machine

variable {machine next : Machine} {loader origin : Loader} {frames : List Frame} {name goal : String}
  {asked : List String}

section Underway

variable (static : machine.Static origin) (underway : machine.Underway origin goal asked)

include static underway in
theorem Underway.succeed {outcome : Outcome} (reason : Succeeds machine loader frames name outcome) :
    Onward origin goal asked ⟨loader, frames, .answered (.ok outcome)⟩ := by
  have loaded := reason.loaded static.sound
  have same : frames = machine.frames := by cases reason <;> rfl
  have onPath : machine.path = name :: walkOf frames := by cases reason <;> rfl
  have apart : outcome ≠ .deferred := by cases reason <;> simp
  have calm : loader.Calm := by cases reason <;> exact underway.calm.of_same rfl rfl rfl
  refine .inl (underway.keep static (.succeed reason) (same ▸ underway.frames) apart calm (by rintro _ ⟨⟩) ?_ ?_
    (by rintro _ _ ⟨⟩))
  · intro other member
    rw [onPath]
    exact .inl (List.mem_cons_of_mem _ member)
  · intro other member
    rw [onPath] at member
    rcases List.mem_cons.mp member with rfl | below
    · exact .inl loaded
    · exact .inr below

include static underway in
theorem Underway.reject {error : LoadError} (reason : Rejects machine loader frames name error) :
    Onward origin goal asked ⟨loader.dropBehind name, frames, .answered (.error error)⟩ := by
  have control := underway.control
  have met := underway.met
  have same : frames = machine.frames := by cases reason <;> first | rfl | cases control
  have subject : machine.control.subject? = some name := by cases reason <;> first | rfl | cases control
  refine .inr (underway.fall static (.reject reason) subject same ⟨_, rfl, nofun⟩ ?_ ?_ ?_)
  · rw [Loader.registry_dropBehind, reason.registry_eq]
  · rw [Loader.tracker_dropBehind, Tracker.statuses_drop, reason.tracker_eq]
  · cases reason with
    | passedOn => cases control
    | refused unfinished => exact absurd unfinished static.sound.active.not_refused
    | failedBefore loading failed => exact .inl failed
    | failedMeanwhile loading failed => exact .inl failed
    | @cycle loader _ _ idle known walking =>
        obtain ⟨-, further, walked, blocked⟩ := static.blocked_of_path rfl (by simp [idle]) walking
        exact .inr ⟨idle, .inr ⟨further, blocked, .inl (met further walked)⟩⟩
    | dependencyFailed loading failed =>
        have blocked := static.walks.blocked rfl (by simp [loading])
        have idle := static.idle_of_blocked (static.walked _ _ rfl) blocked
        exact .inr ⟨idle, .inr ⟨_, blocked, .inr failed⟩⟩

include static underway in
theorem Underway.failed_of_loading (still : machine.control.running = [])
    (loading : machine.loader.status name = .loading) : machine.loader.isFailed name = true := by
  refine static.sound.active.failed_of_still ?_ loading
  rw [running, still, underway.frames.running, List.append_nil]

include static underway in
theorem Underway.not_postponed {blocker : String} :
    ¬ Postpones machine loader frames name blocker := by
  intro reason
  have control := underway.control
  cases reason with
  | itself loading sound | itselfMeanwhile loading sound | dependencyLoading loading sound =>
      cases sound.symm.trans (underway.failed_of_loading static rfl loading)
  | dependencyWaits waits =>
      rcases static.sound.answered _ rfl _ rfl with loaded | ⟨deferred, -⟩
      · exact waits loaded
      · exact control deferred

include static underway in
theorem Underway.remember (reason : Remembers machine loader frames name) :
    Onward origin goal asked ⟨loader.remember name, frames, .answered (.ok .deferred)⟩ := by
  have same : frames = machine.frames := by cases reason <;> rfl
  have subject : machine.control.subject? = some name := by cases reason <;> rfl
  refine .inr (underway.fall static (.remember reason) subject same ⟨_, rfl, by simp⟩ ?_ ?_ ?_)
  · rw [Loader.registry_remember, reason.registry_eq]
  · rw [Loader.tracker_remember, reason.tracker_eq]
  · rw [Loader.Explained, Loader.status, Loader.tracker_remember, Loader.registry_remember]
    cases reason with
    | undeclared idle unknown => exact .inr ⟨idle, .inl unknown⟩
    | vanished idle unknown => exact .inr ⟨idle, .inl (by rw [Registry.contains_eq, unknown]; rfl)⟩

include static underway in
theorem Underway.advance {dependency : String} {rest : List String}
    (reason : Advances machine frames name dependency rest) :
    Onward origin goal asked ⟨machine.loader, frames, .walk name rest⟩ := by
  have climbs : Climbs goal frames := by
    have climbs := underway.frames
    cases reason <;> exact climbs
  have onPath : machine.path = name :: walkOf frames := by cases reason <;> rfl
  refine .inl (underway.keep static (.advance reason) climbs trivial underway.calm (by rintro _ ⟨⟩) ?_ ?_
    (by rintro _ _ ⟨⟩))
  · intro other member
    rw [onPath]
    exact .inl member
  · intro other member
    rw [onPath] at member
    exact .inr member

include static underway in
theorem Underway.goOn {library : String} {action : Action} {rest : List Action} {answer : Answer}
    (reason : Answers machine frames library action rest answer) (fine : action.failure? answer = none) :
    Onward origin goal asked
      ⟨machine.loader.note (.performed library action answer), frames, .perform library rest⟩ := by
  have performs := underway.control_of_answers reason
  have same : frames = machine.frames := by
    have climbs := underway.frames
    cases reason <;> first | rfl | cases climbs
  have onPath : machine.path = library :: walkOf frames := by rw [path, performs, same]; rfl
  refine .inl (underway.keep static (.goOn reason fine) (same ▸ underway.frames) trivial
    (underway.calm.of_same rfl rfl rfl) (by rintro _ ⟨⟩) ?_ ?_ ?_)
  · intro other member
    rw [onPath]
    exact .inl member
  · intro other member
    rw [onPath] at member
    exact .inr member
  · rintro _ _ ⟨⟩
    obtain ⟨idle, record, past, known, split, sound⟩ := underway.tried library _ performs
    refine ⟨idle, record, past ++ [action], known, by simp [split], ?_⟩
    intro message member
    rcases List.mem_append.mp member with old | new
    · exact sound message old
    · cases List.mem_singleton.mp new
      cases fine

include static underway in
theorem Underway.fail {library : String} {action : Action} {rest : List Action} {answer : Answer}
    {cause : String} (reason : Answers machine frames library action rest answer)
    (failing : action.failure? answer = some cause) : Onward origin goal asked
      ⟨((machine.loader.note (.performed library action answer)).failTarget library cause).1.dropBehind
          library, frames,
        .answered (.error
          ((machine.loader.note (.performed library action answer)).failTarget library cause).2)⟩ := by
  have performs := underway.control_of_answers reason
  have same : frames = machine.frames := by
    have climbs := underway.frames
    cases reason <;> first | rfl | cases climbs
  refine .inr (underway.fall static (.fail reason failing) (by rw [performs]; rfl) same ⟨_, rfl, nofun⟩ ?_ ?_ ?_)
  · rw [Loader.registry_dropBehind, Loader.registry_failTarget, Loader.registry_note]
  · rw [Loader.tracker_dropBehind, Tracker.statuses_drop, Loader.statuses_failTarget, Loader.tracker_note]
  · exact .inl (static.sound.active.isFailed_fail reason _ _)

end Underway

section Explicit

variable {loader : Loader} {dependency : String} {rest : List String}

theorem Underway.enter (static : Static origin ⟨loader, frames, .drive name⟩)
    (underway : Underway origin goal asked ⟨loader, frames, .drive name⟩)
    (idle : loader.status name = .unloaded) (known : loader.registry.contains name = true)
    (fresh : name ∉ walkOf frames) : Onward origin goal asked
      ⟨(loader.announce (.requested name)).forget name, frames, .walk name (loader.dependencies name)⟩ := by
  have nothing : loader.unresolved = [] := underway.calm.unresolved
  have unresolved : ((loader.announce (.requested name)).forget name).unresolved = loader.unresolved := by
    simp [Loader.forget, nothing]
  exact .inl (underway.keep static (.enter idle known fresh) underway.frames trivial
    (underway.calm.of_same rfl unresolved rfl) (by rintro _ ⟨⟩) (fun _ => .inl) (fun _ => .inr)
    (by rintro _ _ ⟨⟩))

theorem Underway.descend (static : Static origin ⟨loader, frames, .walk name (dependency :: rest)⟩)
    (underway : Underway origin goal asked ⟨loader, frames, .walk name (dependency :: rest)⟩)
    (idle : loader.status dependency = .unloaded) : Onward origin goal asked
      ⟨loader, .walking name dependency rest :: frames, .drive dependency⟩ := by
  refine .inl (underway.keep static (.descend idle) underway.frames trivial underway.calm ?_ ?_
    (fun _ member => .inr (List.mem_cons_of_mem _ member)) (by rintro _ _ ⟨⟩))
  · rintro _ ⟨⟩
    obtain ⟨past, split, loaded⟩ := static.walks.control name _ rfl
    rw [static.dependencies] at split
    have attempted := underway.explored.attempted name (underway.met name (List.mem_cons_self ..))
    exact .next attempted (static.walked name _ rfl) split
      fun other member => underway.explored.loadable other (loaded other member)
  · intro other member
    rcases List.mem_cons.mp member with rfl | below
    · exact .inr rfl
    · exact .inl below

theorem Underway.begin {target : Option Target} {registry : Registry Target}
    (static : Static origin ⟨loader, frames, .walk name []⟩)
    (underway : Underway origin goal asked ⟨loader, frames, .walk name []⟩)
    (idle : loader.status name = .unloaded)
    (taken : loader.registry.takeTarget? name = some (target, registry)) : Onward origin goal asked
      ⟨(loader.beginLoad name registry).noteTarget name target, frames,
        .perform name (Target.actions target)⟩ := by
  have calm : ((loader.beginLoad name registry).noteTarget name target).Calm := by
    refine underway.calm.of_same ?_ ?_ ?_
    · rw [Loader.tracker_noteTarget]
      rfl
    · rw [Loader.unresolved_noteTarget]
      rfl
    · rw [Loader.buffers_noteTarget]
      rfl
  refine .inl (underway.keep static (.begin idle taken) underway.frames trivial calm (by rintro _ ⟨⟩)
    (fun _ => .inl) (fun _ => .inr) ?_)
  rintro _ _ ⟨⟩
  obtain ⟨record, known, row⟩ := Option.map_eq_some_iff.mp taken
  cases row
  rw [static.lookup name idle] at known
  exact ⟨static.walked name [] rfl, record, [], known, rfl, by simp⟩

theorem Underway.finish {tracker : Tracker} {waiting : List String}
    (static : Static origin ⟨loader, frames, .perform name []⟩)
    (underway : Underway origin goal asked ⟨loader, frames, .perform name []⟩)
    (finished : loader.tracker.finish name = .ok (tracker, waiting)) : Onward origin goal asked
      ⟨loader.endLoad name tracker, frames, .resume name (waiting.filter (· ≠ name))⟩ := by
  have alone : waiting = [] := by
    obtain ⟨-, -, -, taken⟩ := Tracker.finish_eq_ok finished
    rw [taken, underway.calm.queue]
  have queue : tracker.queue = loader.tracker.queue := by
    funext blocker
    rw [Tracker.queue_finish finished, underway.calm.queue, ite_self]
  have step : Step ⟨loader, frames, .perform name []⟩ _ := .finish finished
  subst alone
  refine .inl (underway.keep static step underway.frames trivial (underway.calm.of_same queue rfl rfl)
    (by rintro _ ⟨⟩) (fun _ => .inl) (fun _ => .inr) (by rintro _ _ ⟨⟩))

end Explicit

theorem Underway.step (static : machine.Static origin) (underway : machine.Underway origin goal asked)
    (step : Step machine next)
    (stands : ∀ result, machine.frames = [.requesting .outermost goal] → machine.control ≠ .answered result) :
    Onward origin goal asked next := by
  have climbs := underway.frames
  have control := underway.control
  cases step with
  | succeed reason => exact underway.succeed static reason
  | reject reason => exact underway.reject static reason
  | postpone reason => exact absurd reason (underway.not_postponed static)
  | remember reason => exact underway.remember static reason
  | advance reason => exact underway.advance static reason
  | goOn reason fine => exact underway.goOn static reason fine
  | fail reason failing => exact underway.fail static reason failing
  | enter idle known fresh => exact underway.enter static idle known fresh
  | descend idle => exact underway.descend static idle
  | begin idle taken => exact underway.begin static idle taken
  | finish finished => exact underway.finish static finished
  | declare | call | callAll =>
      exact (static.passive.programs _ _ (.inl rfl) _ (List.mem_cons_self ..)).elim
  | returned =>
      obtain ⟨rfl, rfl⟩ := climbs
      exact absurd rfl (stands _ rfl)
  | resumeNext | sweepNext | sweepEnd | settleNext | settleRound | conclude => cases control
  | sweptOne | resumedOne | settledOne => cases climbs

theorem Falling.passOn {dependency : String} {rest : List String} (static : machine.Static origin)
    (falling : machine.Falling origin goal asked)
    (top : machine.frames = .walking name dependency rest :: next.frames)
    (control : ∃ result, next.control = .answered result ∧ ∀ outcome, result = .ok outcome → outcome = .deferred)
    (registry : next.loader.registry = machine.loader.registry)
    (same : machine.loader.tracker.SameProgress next.loader.tracker) :
    next.Falling origin goal (asked ++ next.driven?.toList) := by
  have unasked : next.driven? = none := by
    obtain ⟨result, answered, -⟩ := control
    rw [driven?, answered]
  have stacked := static.sound.stacked.frames
  have climbs := falling.frames
  have awaited := falling.top
  rw [top] at stacked climbs awaited
  have standing : .walking name dependency rest ∈ machine.frames := top ▸ List.mem_cons_self ..
  have walked : name ∈ walkOf machine.frames := by
    rw [top]
    exact List.mem_cons_self ..
  obtain ⟨asks, explained⟩ := awaited dependency rfl
  have blocked := static.walks.blocked_of_frame standing (explained.not_loaded static.sound.active)
  have idle := static.idle_of_blocked (static.standing _ _ _ standing) blocked
  have kept : ∀ other, machine.loader.Explained asked other → next.loader.Explained asked other :=
    fun other => (Loader.explained_congr registry same other).mpr
  rw [unasked, Option.toList_none, List.append_nil]
  refine ⟨climbs, control, falling.explored.of_same same, ?_, ?_, ?_⟩
  · intro other member
    refine falling.met other ?_
    rw [top]
    exact List.mem_cons_of_mem _ member
  · intro other member
    rw [Loader.status, same.status]
    exact (falling.explained other member).imp_right (kept other)
  · refine (stacked.2.1 name rfl).of_eq ⟨falling.met name walked, kept name ?_⟩
    exact .inr ⟨idle, .inr ⟨dependency, blocked, .inl asks⟩⟩

theorem Falling.step (static : machine.Static origin) (falling : machine.Falling origin goal asked)
    (step : Step machine next)
    (stands : ∀ result, machine.frames = [.requesting .outermost goal] → machine.control ≠ .answered result) :
    next.Falling origin goal (asked ++ next.driven?.toList) := by
  obtain ⟨loader, frames, control⟩ := machine
  obtain ⟨result, rfl, put_off⟩ := falling.control
  have climbs := falling.frames
  cases frames with
  | nil => cases climbs
  | cons frame frames =>
      cases frame with
      | walking name dependency rest =>
          cases step with
          | reject reason =>
              cases reason
              exact falling.passOn static rfl ⟨_, rfl, nofun⟩ rfl (.drop _ _)
          | postpone reason =>
              cases reason
              refine falling.passOn static rfl ⟨_, rfl, by simp⟩ (Loader.registry_defer ..) ?_
              rw [Loader.tracker_defer]
              exact .defer _ _ _
          | advance reason =>
              cases reason with
              | loadedNow loaded => exact absurd loaded ((falling.top _ rfl).2.not_loaded static.sound.active)
          | succeed reason => cases reason
          | remember reason => cases reason
          | goOn reason => cases reason
          | fail reason => cases reason
      | requesting caller name =>
          cases caller with
          | outermost =>
              obtain ⟨rfl, rfl⟩ := climbs
              exact absurd rfl (stands result rfl)
          | program => cases climbs
      | sweeping | resuming | settling => cases climbs

end Machine

end DemandLoad
