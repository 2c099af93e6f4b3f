import DemandLoad.Proofs.AgreementOffHopeless

namespace DemandLoad

inductive Aligned (bottom other : Frame) : List Frame → List Frame → Prop
  | base : Aligned bottom other [bottom] [other]
  | push {frames others : List Frame} (frame : Frame) (below : Aligned bottom other frames others) :
      Aligned bottom other (frame :: frames) (frame :: others)

namespace Aligned

variable {bottom other : Frame} {frames others : List Frame}

theorem ne_nil (aligned : Aligned bottom other frames others) : frames ≠ [] := by
  cases aligned <;> simp

theorem walkOf_eq (aligned : Aligned bottom other frames others) (same : walkOf [other] = walkOf [bottom]) :
    walkOf others = walkOf frames := by
  induction aligned with
  | base => exact same
  | push frame _ ih => cases frame <;> simp [walkOf, ih]

theorem eq_of_bottom (aligned : Aligned bottom other [bottom] others) : others = [other] := by
  cases aligned with
  | base => rfl
  | push _ below => exact absurd rfl below.ne_nil

end Aligned

namespace Machine

variable {hopeless : String → Prop} {bottom other : Frame} {machine next bulk : Machine} {loader : Loader}
  {frames : List Frame} {name : String}

/-- The machines differ only in the bottoms of their stacks and in the queues of hopeless libraries. -/
structure Mirrors (hopeless : String → Prop) (bottom other : Frame) (machine bulk : Machine) : Prop where
  frames : Aligned bottom other machine.frames bulk.frames
  control : bulk.control = machine.control
  loaders : machine.loader.Agrees hopeless bulk.loader

def Follows (hopeless : String → Prop) (bottom other : Frame) (bulk next : Machine) : Prop :=
  ∃ further, Step bulk further ∧ next.Mirrors hopeless bottom other further

structure Bottoms (bottom other : Frame) : Prop where
  request : ∃ goal, bottom = .requesting .outermost goal
  sweep : ∃ before rest errors, other = .sweeping .outermost before rest errors

theorem Bottoms.walkOf_eq (bottoms : Bottoms bottom other) : walkOf [other] = walkOf [bottom] := by
  obtain ⟨⟨_, rfl⟩, _, _, _, rfl⟩ := bottoms
  rfl

section Step

variable (mirrors : machine.Mirrors hopeless bottom other bulk)
include mirrors

theorem Mirrors.succeed {outcome : Outcome} (reason : Succeeds machine loader frames name outcome) :
    Follows hopeless bottom other bulk ⟨loader, frames, .answered (.ok outcome)⟩ := by
  obtain ⟨wide, others, control⟩ := bulk
  obtain ⟨aligned, rfl, agrees⟩ := mirrors
  cases reason with
  | loadedBefore loaded =>
      exact ⟨_, .succeed (.loadedBefore ((agrees.status _).trans loaded)), aligned, rfl, agrees.announce _ _⟩
  | loadedMeanwhile loaded =>
      exact ⟨_, .succeed (.loadedMeanwhile ((agrees.status _).trans loaded)), aligned, rfl, agrees⟩
  | resumedAll => exact ⟨_, .succeed .resumedAll, aligned, rfl, agrees⟩

theorem Mirrors.remember (reason : Remembers machine loader frames name) :
    Follows hopeless bottom other bulk ⟨loader.remember name, frames, .answered (.ok .deferred)⟩ := by
  obtain ⟨wide, others, control⟩ := bulk
  obtain ⟨aligned, rfl, agrees⟩ := mirrors
  cases reason with
  | undeclared idle unknown =>
      refine ⟨_, .remember (.undeclared ((agrees.status _).trans idle) ?_), aligned, rfl,
        (agrees.announce _ _).remember _⟩
      rw [agrees.registry, unknown]
  | vanished idle unknown =>
      refine ⟨_, .remember (.vanished ((agrees.status _).trans idle) ?_), aligned, rfl, agrees.remember _⟩
      rw [agrees.registry, unknown]

variable (bottoms : Bottoms bottom other)
include bottoms

theorem Mirrors.reject {error : LoadError} (active : machine.Active)
    (reason : Rejects machine loader frames name error) (spreads : machine.loader.tracker.Spreads hopeless)
    (spreads_too : bulk.loader.tracker.Spreads hopeless) :
    Follows hopeless bottom other bulk ⟨loader.dropBehind name, frames, .answered (.error error)⟩ := by
  obtain ⟨wide, others, control⟩ := bulk
  obtain ⟨aligned, rfl, agrees⟩ := mirrors
  have dropped : ∀ {next further : Loader}, next.registry = machine.loader.registry →
      next.tracker = machine.loader.tracker → further.registry = wide.registry → further.tracker = wide.tracker →
      (next.dropBehind name).Agrees hopeless (further.dropBehind name) := by
    intro next further registry tracker registry_too tracker_too
    refine (agrees.of_same registry tracker registry_too tracker_too).dropBehind ?_ ?_ name
    · rwa [tracker]
    · rwa [tracker_too]
  cases reason with
  | failedBefore loading failed =>
      exact ⟨_, .reject (.failedBefore ((agrees.status _).trans loading) ((agrees.isFailed _).trans failed)),
        aligned, rfl, dropped rfl rfl rfl rfl⟩
  | cycle idle known walking =>
      have same := aligned.walkOf_eq bottoms.walkOf_eq
      refine ⟨_, .reject (.cycle ((agrees.status _).trans idle) ?_ ?_), aligned, ?_, dropped rfl rfl rfl rfl⟩
      · rw [agrees.registry, known]
      · rwa [same]
      · rw [same]
  | dependencyFailed loading failed =>
      exact ⟨_, .reject (.dependencyFailed ((agrees.status _).trans loading) ((agrees.isFailed _).trans failed)),
        aligned, rfl, dropped rfl rfl rfl rfl⟩
  | failedMeanwhile loading failed =>
      exact ⟨_, .reject (.failedMeanwhile ((agrees.status _).trans loading) ((agrees.isFailed _).trans failed)),
        aligned, rfl, dropped rfl rfl rfl rfl⟩
  | refused unfinished => exact absurd unfinished active.not_refused
  | passedOn =>
      obtain ⟨⟨goal, rfl⟩, -⟩ := bottoms
      cases aligned with
      | push _ below => exact ⟨_, .reject .passedOn, below, rfl, dropped rfl rfl rfl rfl⟩

theorem Mirrors.postpone {blocker : String} (reason : Postpones machine loader frames name blocker) :
    Follows hopeless bottom other bulk ⟨loader.defer name blocker, frames, .answered (.ok .deferred)⟩ := by
  obtain ⟨wide, others, control⟩ := bulk
  obtain ⟨aligned, rfl, agrees⟩ := mirrors
  cases reason with
  | itself loading sound =>
      exact ⟨_, .postpone (.itself ((agrees.status _).trans loading) ((agrees.isFailed _).trans sound)),
        aligned, rfl, (agrees.announce _ _).defer _ _⟩
  | itselfMeanwhile loading sound =>
      exact ⟨_, .postpone (.itselfMeanwhile ((agrees.status _).trans loading) ((agrees.isFailed _).trans sound)),
        aligned, rfl, agrees.defer _ _⟩
  | dependencyLoading loading sound =>
      exact ⟨_, .postpone (.dependencyLoading ((agrees.status _).trans loading) ((agrees.isFailed _).trans sound)),
        aligned, rfl, agrees.defer _ _⟩
  | dependencyWaits waits =>
      obtain ⟨⟨goal, rfl⟩, -⟩ := bottoms
      cases aligned with
      | push _ below =>
          refine ⟨_, .postpone (.dependencyWaits ?_), below, rfl, agrees.defer _ _⟩
          rwa [agrees.status]

theorem Mirrors.advance {dependency : String} {rest : List String}
    (reason : Advances machine frames name dependency rest) :
    Follows hopeless bottom other bulk ⟨machine.loader, frames, .walk name rest⟩ := by
  obtain ⟨wide, others, control⟩ := bulk
  obtain ⟨aligned, rfl, agrees⟩ := mirrors
  cases reason with
  | loadedBefore loaded =>
      exact ⟨_, .advance (.loadedBefore ((agrees.status _).trans loaded)), aligned, rfl, agrees⟩
  | loadedNow loaded =>
      obtain ⟨⟨goal, rfl⟩, -⟩ := bottoms
      cases aligned with
      | push _ below => exact ⟨_, .advance (.loadedNow ((agrees.status _).trans loaded)), below, rfl, agrees⟩

theorem Mirrors.answers {library : String} {action : Action} {rest : List Action} {answer : Answer}
    (reason : Answers machine frames library action rest answer) : ∃ others reply,
      Answers bulk others library action rest reply ∧ action.failure? reply = action.failure? answer ∧
        Aligned bottom other frames others := by
  obtain ⟨wide, others, control⟩ := bulk
  obtain ⟨aligned, rfl, agrees⟩ := mirrors
  cases reason with
  | told => exact ⟨_, _, .told, rfl, aligned⟩
  | failing => exact ⟨_, _, .failing, rfl, aligned⟩
  | swept =>
      refine ⟨_, _, .swept, ?_, aligned⟩
      rw [agrees.loaded]
  | requested =>
      obtain ⟨⟨goal, rfl⟩, -⟩ := bottoms
      cases aligned with
      | push _ below => exact ⟨_, _, .requested, rfl, below⟩

/-- Each step of the request by itself is a step of the sweep. -/
theorem Mirrors.step (sound : machine.Sound) (idle : ∀ name, hopeless name → machine.loader.status name = .unloaded)
    (spreads : machine.loader.tracker.Spreads hopeless) (spreads_too : bulk.loader.tracker.Spreads hopeless)
    (stands : ∀ result, machine.frames = [bottom] → machine.control ≠ .answered result)
    (step : Step machine next) : Follows hopeless bottom other bulk next := by
  have busy : ¬ machine.control.IsBottom := fun served => mirrors.frames.ne_nil (sound.stacked.bottom served)
  have active := sound.active
  have stacked := sound.stacked.frames
  obtain ⟨wide, others, control⟩ := bulk
  obtain ⟨aligned, rfl, agrees⟩ := id mirrors
  cases step with
  | succeed reason => exact mirrors.succeed reason
  | reject reason => exact mirrors.reject bottoms active reason spreads spreads_too
  | postpone reason => exact mirrors.postpone bottoms reason
  | remember reason => exact mirrors.remember reason
  | advance reason => exact mirrors.advance bottoms reason
  | goOn reason fine =>
      obtain ⟨others, reply, answers, same, aligned⟩ := mirrors.answers bottoms reason
      exact ⟨_, .goOn answers (same.trans fine), aligned, rfl, agrees.note _ _⟩
  | fail reason failing =>
      obtain ⟨others, reply, answers, same, aligned⟩ := mirrors.answers bottoms reason
      obtain ⟨loading, fine⟩ := active.of_answers reason
      obtain ⟨error, failed⟩ := (agrees.note _ _).failTarget spreads spreads_too loading fine _
      exact ⟨_, .fail answers (same.trans failing), aligned,
        congrArg (fun told => Control.answered (.error told)) error, failed⟩
  | enter unloaded known fresh =>
      refine ⟨_, .enter ((agrees.status _).trans unloaded) ?_ ?_, aligned, ?_, agrees.of_same rfl rfl rfl rfl⟩
      · rw [agrees.registry, known]
      · rwa [aligned.walkOf_eq bottoms.walkOf_eq]
      · rw [agrees.dependencies]
  | descend unloaded => exact ⟨_, .descend ((agrees.status _).trans unloaded), .push _ aligned, rfl, agrees⟩
  | begin unloaded taken =>
      refine ⟨_, .begin ((agrees.status _).trans unloaded) ?_, aligned, rfl, agrees.begin _ _ _⟩
      rw [agrees.registry, taken]
  | finish finished =>
      have runs := active.mem_running _ |>.mp (List.mem_cons_self ..)
      have fine : ¬ hopeless _ := fun hangs => by cases runs.1.symm.trans (idle _ hangs)
      obtain ⟨ended, finished_too, agrees⟩ := agrees.finish fine finished
      exact ⟨_, .finish finished_too, aligned, rfl, agrees⟩
  | declare => exact ⟨_, .declare, aligned, rfl, (agrees.declare _ _ _).note _ _⟩
  | call => exact ⟨_, .call, .push _ aligned, rfl, agrees⟩
  | callAll =>
      refine ⟨_, .callAll, aligned, ?_, agrees⟩
      rw [agrees.loaded, swept, agrees.registry, swept]
  | resumeNext => exact ⟨_, .resumeNext, .push _ aligned, rfl, agrees.announce _ _⟩
  | sweepNext => exact ⟨_, .sweepNext, .push _ aligned, rfl, agrees⟩
  | returned =>
      cases aligned with
      | base => exact absurd rfl (stands _ rfl)
      | push _ below => exact absurd (stacked.1 trivial) below.ne_nil
  | sweptOne =>
      obtain ⟨⟨goal, rfl⟩, -⟩ := bottoms
      cases aligned with
      | push _ below => exact ⟨_, .sweptOne, below, rfl, agrees⟩
  | resumedOne =>
      obtain ⟨⟨goal, rfl⟩, -⟩ := bottoms
      cases aligned with
      | push _ below => exact ⟨_, .resumedOne, below, rfl, agrees.orphan _⟩
  | settledOne =>
      obtain ⟨⟨goal, rfl⟩, -⟩ := bottoms
      cases aligned with
      | push _ below => exact ⟨_, .settledOne, below, rfl, agrees.orphan _⟩
  | sweepEnd | settleNext | settleRound | conclude => exact absurd trivial busy

end Step

end Machine

end DemandLoad
