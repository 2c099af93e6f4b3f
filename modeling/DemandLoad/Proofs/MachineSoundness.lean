import DemandLoad.Proofs.PendingRequests

namespace DemandLoad

namespace Machine

variable {machine next : Machine} {loader : Loader} {frames : List Frame} {name blocker other : String}

section Roots

/-! What is under way after a request has its answer: all but the name that it was for. -/

variable {root : String} {result : Except LoadError Outcome}

theorem Succeeds.mem_roots {outcome : Outcome} (reason : Succeeds machine loader frames name outcome)
    (member : root ∈ machine.roots) :
    root ∈ roots ⟨loader, frames, .answered result⟩ ∨
      root = name ∧ machine.loader.status name = .loaded := by
  rw [Machine.mem_roots] at member ⊢
  cases reason <;> grind [Control.agenda, Loader.unresolved_announce]

theorem Rejects.mem_roots {error : LoadError} (reason : Rejects machine loader frames name error)
    (member : root ∈ machine.roots) :
    root ∈ roots ⟨loader.dropBehind name, frames, .answered result⟩ ∨ root = name := by
  rw [Machine.mem_roots] at member ⊢
  cases reason <;> grind [Control.agenda, Frame.agenda, Loader.unresolved_announce,
    Loader.unresolved_dropBehind, Loader.forget]

theorem Postpones.mem_roots (reason : Postpones machine loader frames name blocker)
    (member : root ∈ machine.roots) :
    root ∈ roots ⟨loader.defer name blocker, frames, .answered result⟩ ∨ root = name := by
  rw [Machine.mem_roots] at member ⊢
  cases reason <;> grind [Control.agenda, Frame.agenda, Loader.unresolved_announce,
    Loader.unresolved_defer]

theorem Remembers.mem_roots (reason : Remembers machine loader frames name)
    (member : root ∈ machine.roots) :
    root ∈ roots ⟨loader.remember name, frames, .answered result⟩ := by
  rw [Machine.mem_roots] at member ⊢
  cases reason <;> grind [Control.agenda, Loader.unresolved_announce, Loader.mem_unresolved_remember]

theorem Advances.mem_roots {dependency : String} {rest : List String}
    (reason : Advances machine frames name dependency rest) (member : root ∈ machine.roots) :
    root ∈ roots ⟨machine.loader, frames, .walk name rest⟩ := by
  rw [Machine.mem_roots] at member ⊢
  cases reason <;> grind [Control.agenda, Frame.agenda]

theorem Answers.mem_roots {library : String} {action : Action} {rest : List Action} {answer : Answer}
    (reason : Answers machine frames library action rest answer) (member : root ∈ machine.roots) :
    (root = library ∨ root ∈ frames.flatMap Frame.agenda) ∨ root ∈ machine.loader.unresolved := by
  rw [Machine.mem_roots] at member
  cases reason <;> grind [Control.agenda, Frame.agenda, Caller.library?]

end Roots

theorem Succeeds.tracker_eq {outcome : Outcome}
    (reason : Succeeds machine loader frames name outcome) : loader.tracker = machine.loader.tracker := by
  cases reason <;> rfl

theorem Rejects.tracker_eq {error : LoadError} (reason : Rejects machine loader frames name error) :
    loader.tracker = machine.loader.tracker := by
  cases reason <;> rfl

theorem Postpones.tracker_eq (reason : Postpones machine loader frames name blocker) :
    loader.tracker = machine.loader.tracker := by
  cases reason <;> rfl

theorem Remembers.tracker_eq (reason : Remembers machine loader frames name) :
    loader.tracker = machine.loader.tracker := by
  cases reason <;> rfl

theorem Sound.not_queued (sound : machine.Sound) (loaded : machine.loader.status name = .loaded) :
    other ∉ machine.loader.tracker.queue name := by
  simp [sound.drained name loaded]

theorem Sound.anchored_of_loading (sound : machine.Sound)
    (loading : machine.loader.status name = .loading) (fine : machine.loader.isFailed name = false) :
    machine.Anchored name :=
  .root (List.mem_append_left _ ((sound.active.mem_running name).mpr ⟨loading, fine⟩))

theorem Postpones.anchored_before (sound : machine.Sound)
    (reason : Postpones machine loader frames name blocker) : machine.Anchored blocker := by
  cases reason
  case itself loading fine => exact sound.anchored_of_loading loading fine
  case itselfMeanwhile loading fine => exact sound.anchored_of_loading loading fine
  case dependencyLoading loading fine => exact sound.anchored_of_loading loading fine
  case dependencyWaits waits =>
    rcases sound.answered _ rfl _ rfl with loaded | ⟨-, anchored⟩
    · exact absurd loaded waits
    · exact anchored

theorem Postpones.anchored (sound : machine.Sound)
    (reason : Postpones machine loader frames name blocker) :
    Anchored ⟨loader.defer name blocker, frames, .answered (.ok .deferred)⟩ blocker := by
  refine (reason.anchored_before sound).mono ?_ ?_
  · intro root member
    apply Behind.root
    cases reason <;> simpa [running, Control.running, Frame.running] using member
  · intro other waiter queued further
    refine .waits ?_ further
    rw [Loader.tracker_defer, Tracker.mem_queue_defer, reason.tracker_eq]
    exact .inl queued

theorem Postpones.pending_name (sound : machine.Sound)
    (reason : Postpones machine loader frames name blocker) :
    Pending ⟨loader.defer name blocker, frames, .answered (.ok .deferred)⟩ name := by
  refine .waits ?_ (reason.anchored sound).pending
  rw [Loader.tracker_defer, Tracker.mem_queue_defer]
  exact .inr ⟨rfl, rfl⟩

theorem Postpones.pending (sound : machine.Sound)
    (reason : Postpones machine loader frames name blocker) (pending : machine.Pending other) :
    Pending ⟨loader.defer name blocker, frames, .answered (.ok .deferred)⟩ other := by
  refine Machine.Pending.mono pending ?_ ?_
  · intro root member
    rcases reason.mem_roots member with kept | rfl
    · exact .root kept
    · exact reason.pending_name sound
  · intro blocker waiter queued
    rw [Loader.tracker_defer, Tracker.mem_queue_defer, reason.tracker_eq]
    exact .inl queued

theorem Succeeds.pending {outcome : Outcome} (sound : machine.Sound)
    (reason : Succeeds machine loader frames name outcome) (pending : machine.Pending other) :
    Pending ⟨loader, frames, .answered (.ok outcome)⟩ other ∨
      loader.status other = .loaded ∧ loader.tracker.queue other = [] := by
  have finished : ∀ waiter, machine.loader.status waiter = .loaded →
      loader.status waiter = .loaded ∧ loader.tracker.queue waiter = [] := by
    intro waiter loaded
    rw [Loader.status, reason.tracker_eq]
    exact ⟨loaded, sound.drained waiter loaded⟩
  induction pending with
  | root member =>
      rcases reason.mem_roots member with kept | ⟨rfl, loaded⟩
      · exact .inl (.root kept)
      · exact .inr (finished _ loaded)
  | waits queued _ ih =>
      rcases ih with further | ⟨-, empty⟩
      · exact .inl (.waits (reason.tracker_eq ▸ queued) further)
      · rw [reason.tracker_eq] at empty
        rw [empty] at queued
        cases queued

theorem Pending.of_drop {culprit : String} (pending : machine.Pending other)
    (roots : ∀ root ∈ machine.roots, root ∈ next.roots ∨ root = culprit)
    (queue : ∀ blocker, next.loader.tracker.queue blocker =
      (machine.loader.tracker.drop [culprit]).1.queue blocker) :
    next.Pending other ∨ Behind machine.loader.tracker.queue [culprit] other ∧
      next.loader.tracker.queue other = [] := by
  have gone : ∀ waiter, Behind machine.loader.tracker.queue [culprit] waiter →
      next.loader.tracker.queue waiter = [] := by
    intro waiter behind
    rw [queue]
    exact Tracker.queue_drop_of_behind _ _ _ behind
  by_cases behind : Behind machine.loader.tracker.queue [culprit] other
  · exact .inr ⟨behind, gone other behind⟩
  left
  induction pending with
  | root member =>
      rcases roots _ member with kept | rfl
      · exact .root kept
      · exact absurd (.root (List.mem_singleton.mpr rfl)) behind
  | @waits waiter blocker queued _ ih =>
      have apart : ¬ Behind machine.loader.tracker.queue [culprit] blocker :=
        fun further => behind (.waits queued further)
      refine .waits ?_ (ih apart)
      rw [queue, Tracker.queue_drop_of_apart _ _ _ apart]
      exact queued

theorem Sound.drained_finish {tracker : Tracker} {waiting : List String}
    (sound : Sound ⟨loader, frames, .perform name []⟩)
    (finished : loader.tracker.finish name = .ok (tracker, waiting))
    (loaded : other = name ∨ loader.status other = .loaded) :
    tracker.status other = .loaded ∧ tracker.queue other = [] := by
  rw [Tracker.status_finish finished, Tracker.queue_finish finished]
  rcases loaded with rfl | loaded
  · exact ⟨if_pos rfl, if_pos rfl⟩
  · rw [sound.drained other loaded]
    constructor
    · split
      · rfl
      · exact loaded
    · split <;> rfl

theorem pending_finish {tracker : Tracker} {waiting : List String}
    (sound : Sound ⟨loader, frames, .perform name []⟩)
    (finished : loader.tracker.finish name = .ok (tracker, waiting))
    (pending : Pending ⟨loader, frames, .perform name []⟩ other) :
    Pending ⟨loader.endLoad name tracker, frames, .resume name (waiting.filter (· ≠ name))⟩ other ∨
      tracker.status other = .loaded ∧ tracker.queue other = [] := by
  obtain ⟨-, -, -, taken⟩ := Tracker.finish_eq_ok finished
  have queue := Tracker.queue_finish finished
  induction pending with
  | @root root member =>
      by_cases same : root = name
      · exact .inr (sound.drained_finish finished (.inl same))
      · refine .inl (.root ?_)
        rw [mem_roots] at member ⊢
        grind [Control.agenda, Loader.endLoad, Loader.unresolved_announce]
  | @waits waiter blocker queued _ ih =>
      by_cases same : blocker = name
      · subst same
        by_cases itself : waiter = blocker
        · exact .inr (sound.drained_finish finished (.inl itself))
        · refine .inl (.root ?_)
          rw [mem_roots, taken]
          refine .inl (.inl ?_)
          simpa [Control.agenda, itself] using queued
      · rcases ih with further | ⟨-, empty⟩
        · refine .inl (.waits ?_ further)
          change waiter ∈ tracker.queue blocker
          rw [queue, if_neg same]
          exact queued
        · rw [queue, if_neg same] at empty
          have held : waiter ∈ loader.tracker.queue blocker := queued
          rw [empty] at held
          cases held

theorem Active.isFailed_fail {library : String} {action : Action} {rest : List Action} {answer : Answer}
    (active : machine.Active) (reason : Answers machine frames library action rest answer)
    (event : Event) (cause : String) :
    (((machine.loader.note event).failTarget library cause).1.dropBehind library).isFailed library = true := by
  rw [Loader.isFailed, Loader.tracker_dropBehind, (active.failTarget_eq reason event cause).1]
  simp [Tracker.isFailed, Tracker.failing]

theorem Active.queue_fail {library : String} {action : Action} {rest : List Action} {answer : Answer}
    (active : machine.Active) (reason : Answers machine frames library action rest answer)
    (event : Event) (cause : String) (blocker : String) :
    (((machine.loader.note event).failTarget library cause).1.dropBehind library).tracker.queue blocker =
      (machine.loader.tracker.drop [library]).1.queue blocker := by
  rw [Loader.tracker_dropBehind, (active.failTarget_eq reason event cause).1]
  have once : ((machine.loader.tracker.failing library).drop [library]).1.queue =
      (machine.loader.tracker.drop [library]).1.queue := rfl
  by_cases behind : Behind (machine.loader.tracker.drop [library]).1.queue [library] blocker
  · have empty : (machine.loader.tracker.drop [library]).1.queue blocker = [] := by
      apply Tracker.queue_drop_of_behind
      exact behind.mono (fun _ member => .root member)
        fun other waiter queued further => .waits (Tracker.queue_drop_subset _ _ _ queued) further
    rw [Tracker.queue_drop_of_behind _ _ _ (once ▸ behind), empty]
  · rw [Tracker.queue_drop_of_apart _ _ _ (once ▸ behind), once]

theorem Sound.pending_conclude {verdict : Verdict} (sound : Sound ⟨loader, frames, .settle verdict []⟩)
    (pending : Pending ⟨loader, frames, .settle verdict []⟩ other) :
    Behind loader.tracker.queue loader.unresolved other := by
  have none_below : frames = [] := sound.stacked.bottom trivial
  subst none_below
  exact pending

theorem Step.pending (sound : machine.Sound) (step : Step machine next)
    (pending : machine.Pending other) :
    next.Pending other ∨ machine.Departs next other ∧ next.loader.tracker.queue other = [] := by
  cases step with
  | succeed reason =>
      refine (reason.pending sound pending).imp_right ?_
      exact fun gone => ⟨.loaded gone.1, gone.2⟩
  | reject reason =>
      refine (pending.of_drop (fun _ => reason.mem_roots) ?_).imp_right ?_
      · intro blocker
        rw [Loader.tracker_dropBehind, reason.tracker_eq]
      · exact fun gone => ⟨.dropped ⟨_, .rejected reason, gone.1⟩, gone.2⟩
  | postpone reason => exact .inl (reason.pending sound pending)
  | remember reason =>
      refine .inl (pending.of_subset (fun _ => reason.mem_roots) ?_)
      rw [Loader.tracker_remember, reason.tracker_eq]
  | advance reason => exact .inl (pending.of_subset (fun _ => reason.mem_roots) rfl)
  | finish finished =>
      refine (pending_finish sound finished pending).imp_right ?_
      exact fun gone => ⟨.loaded gone.1, gone.2⟩
  | goOn reason fine =>
      refine .inl (pending.of_subset ?_ rfl)
      intro root member
      have kept := reason.mem_roots member
      rw [mem_roots]
      grind [Control.agenda, Loader.unresolved_note]
  | fail reason failing =>
      refine (pending.of_drop ?_ (sound.active.queue_fail reason _ _)).imp_right ?_
      · intro root member
        have kept := reason.mem_roots member
        rw [mem_roots]
        grind [Control.agenda, Loader.unresolved_failTarget, Loader.unresolved_dropBehind,
          Loader.unresolved_note]
      · exact fun gone => ⟨.dropped ⟨_, .failed (sound.active.isFailed_fail reason _ _), gone.1⟩, gone.2⟩
  | conclude settled =>
      right
      refine ⟨.givenUp _ rfl settled, ?_⟩
      simp only [Machine.conclude, goto, withLoader, Loader.tracker_giveUpUnresolved]
      exact Tracker.queue_drop_of_behind _ _ _ (sound.pending_conclude pending)
  | begin idle taken =>
      refine .inl (pending.of_subset ?_ ?_)
      · intro root member
        rw [mem_roots] at member ⊢
        rw [Loader.unresolved_noteTarget]
        exact member
      · rw [Loader.tracker_noteTarget]
        rfl
  | declare =>
      refine .inl (pending.of_subset ?_ ?_)
      · intro root member
        rw [mem_roots] at member ⊢
        rw [Loader.unresolved_note, Loader.unresolved_declare]
        exact member
      · rw [Loader.tracker_note, Loader.tracker_declare]
  | resumedOne | settledOne =>
      refine .inl (pending.of_subset ?_ ?_)
      · intro root member
        rw [mem_roots] at member ⊢
        grind [Control.agenda, Frame.agenda, Loader.unresolved_orphan]
      · rw [Loader.tracker_orphan]
  | enter | descend | call | callAll | resumeNext | sweepNext | sweepEnd | settleNext | settleRound
    | returned | sweptOne =>
      refine .inl (pending.of_subset ?_ rfl)
      intro root member
      rw [mem_roots] at member ⊢
      grind [Control.agenda, Frame.agenda, Caller.library?, Loader.unresolved_announce, Loader.forget]

theorem Postpones.not_loaded (reason : Postpones machine loader frames name blocker) :
    machine.loader.status blocker ≠ .loaded := by
  cases reason
  case dependencyWaits waits => exact waits
  all_goals simp_all

/-- Only a postponed request enters a queue. -/
theorem Step.queued (active : machine.Active) (step : Step machine next)
    (queued : name ∈ next.loader.tracker.queue blocker) :
    name ∈ machine.loader.tracker.queue blocker ∨ ∃ loader frames,
      Postpones machine loader frames name blocker ∧
        next = ⟨loader.defer name blocker, frames, .answered (.ok .deferred)⟩ := by
  cases step with
  | postpone reason =>
      rw [Loader.tracker_defer, Tracker.mem_queue_defer, reason.tracker_eq] at queued
      rcases queued with old | ⟨rfl, rfl⟩
      · exact .inl old
      · exact .inr ⟨_, _, reason, rfl⟩
  | succeed reason => exact .inl (reason.tracker_eq ▸ queued)
  | reject reason =>
      rw [Loader.tracker_dropBehind, reason.tracker_eq] at queued
      exact .inl (Tracker.queue_drop_subset _ _ _ queued)
  | remember reason =>
      rw [Loader.tracker_remember, reason.tracker_eq] at queued
      exact .inl queued
  | finish finished =>
      change name ∈ Tracker.queue _ blocker at queued
      rw [Loader.endLoad, Loader.tracker_announce, Tracker.queue_finish finished] at queued
      split at queued
      · cases queued
      · exact .inl queued
  | fail reason failing =>
      rw [active.queue_fail reason] at queued
      exact .inl (Tracker.queue_drop_subset _ _ _ queued)
  | conclude =>
      simp only [Machine.conclude, goto, withLoader, Loader.tracker_giveUpUnresolved] at queued
      exact .inl (Tracker.queue_drop_subset _ _ _ queued)
  | begin =>
      rw [Loader.tracker_noteTarget] at queued
      exact .inl queued
  | declare =>
      rw [Loader.tracker_note, Loader.tracker_declare] at queued
      exact .inl queued
  | resumedOne | settledOne =>
      rw [Loader.tracker_orphan] at queued
      exact .inl queued
  | advance | goOn | enter | descend | call | callAll | resumeNext | sweepNext | sweepEnd | settleNext
    | settleRound | returned | sweptOne => exact .inl queued

theorem Sound.drained_step (sound : machine.Sound) (step : Step machine next)
    (loaded : next.loader.status name = .loaded) : next.loader.tracker.queue name = [] := by
  apply List.eq_nil_iff_forall_not_mem.mpr
  intro waiter queued
  have before : machine.loader.status name ≠ .loaded := by
    rcases step.queued sound.active queued with old | ⟨_, _, reason, -⟩
    · exact fun loaded => sound.not_queued loaded old
    · exact reason.not_loaded
  cases step.progress sound.active with
  | still same running => exact before ((same.status name).symm.trans loaded)
  | failed failing same running => exact before ((same.status name).symm.trans loaded)
  | begun started control idle same running =>
      have status := (same.status_begun name).symm.trans loaded
      split at status
      · cases status
      · exact before status
  | ended ending control same drained running =>
      have status := (same.status_ended name).symm.trans loaded
      split at status
      case isTrue same =>
        subst same
        rw [drained] at queued
        cases queued
      case isFalse => exact before status

theorem Sound.rooted_step (sound : machine.Sound) (step : Step machine next)
    (queued : name ∈ next.loader.tracker.queue blocker) : next.Pending blocker := by
  rcases step.queued sound.active queued with old | ⟨_, _, reason, rfl⟩
  · rcases step.pending sound (sound.rooted blocker name old) with pending | ⟨-, empty⟩
    · exact pending
    · rw [empty] at queued
      cases queued
  · exact (reason.anchored sound).pending

theorem Sound.resuming_step {rest : List String} (sound : machine.Sound) (step : Step machine next)
    (member : .resuming name rest ∈ next.frames) : next.loader.status name = .loaded := by
  apply step.loaded_mono sound.active
  rcases step.mem_frames member with below | inHand
  · exact sound.resuming name rest below
  · obtain ⟨waiting, control⟩ := Control.resume_of_inHand? inHand
    exact sound.resumed name waiting control

theorem Sound.resumed_step {waiting : List String} (sound : machine.Sound) (step : Step machine next)
    (control : next.control = .resume name waiting) : next.loader.status name = .loaded := by
  cases step with
  | finish finished =>
      cases control
      exact (Tracker.status_finish finished _).trans (if_pos rfl)
  | resumedOne =>
      cases control
      have loaded := sound.resuming _ _ (List.mem_cons_self ..)
      simpa only [Loader.status, Loader.tracker_orphan] using loaded
  | _ => cases control

theorem Succeeds.loaded {outcome : Outcome} (sound : machine.Sound)
    (reason : Succeeds machine loader frames name outcome) : loader.status name = .loaded := by
  rw [Loader.status, reason.tracker_eq]
  cases reason with
  | loadedBefore loaded => exact loaded
  | loadedMeanwhile loaded => exact loaded
  | resumedAll => exact sound.resumed _ _ rfl

theorem Sound.answered_step {outcome : Outcome} (sound : machine.Sound) (step : Step machine next)
    (control : next.control = .answered (.ok outcome)) :
    TopAwaits (fun name => next.loader.status name = .loaded ∨
      outcome = .deferred ∧ next.Anchored name) next.frames := by
  cases step with
  | succeed reason =>
      cases control
      exact (reason.leaves sound.stacked).2.of_eq (.inl (reason.loaded sound))
  | postpone reason =>
      cases control
      refine (reason.leaves sound.stacked).2.of_eq (.inr ⟨rfl, .waits ?_ (reason.anchored sound)⟩)
      rw [Loader.tracker_defer, Tracker.mem_queue_defer]
      exact .inr ⟨rfl, rfl⟩
  | remember reason =>
      cases control
      refine (reason.leaves sound.stacked).2.of_eq (.inr ⟨rfl, .root ?_⟩)
      exact List.mem_append_right _ ((Loader.mem_unresolved_remember ..).mpr (.inr rfl))
  | _ => cases control

theorem Sound.step (sound : machine.Sound) (step : Step machine next) : next.Sound where
  stacked := sound.stacked.step step
  active := sound.active.step step
  drained _ loaded := sound.drained_step step loaded
  resumed _ _ control := sound.resumed_step step control
  resuming _ _ member := sound.resuming_step step member
  rooted _ _ queued := sound.rooted_step step queued
  answered _ control := sound.answered_step step control

end Machine

end DemandLoad
