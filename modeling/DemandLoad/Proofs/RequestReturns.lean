import DemandLoad.Proofs.OutermostPurpose

namespace DemandLoad

namespace Machine

variable {machine next : Machine} {frames : List Frame} {name : String} {error : LoadError}

inductive Handed (machine next : Machine) : Prop
  | kept (same : next.frames = machine.frames)
      (subject : (∃ result, next.control = .answered result) ∨
        next.control.subject? = machine.control.subject?)
  | pushed (frame : Frame) (frames : next.frames = frame :: machine.frames)
      (subject : frame.subject? = machine.control.subject?)
  | popped (frame : Frame) (frames : machine.frames = frame :: next.frames)
      (idle : machine.control.subject? = none)
      (subject : (∃ result, next.control = .answered result) ∨ next.control.subject? = frame.subject?)

theorem Step.handed (step : Step machine next) : Handed machine next := by
  cases step with
  | succeed reason => cases reason <;> exact .kept rfl (.inl ⟨_, rfl⟩)
  | remember reason => cases reason <;> exact .kept rfl (.inl ⟨_, rfl⟩)
  | reject reason =>
      cases reason
      case passedOn => exact .popped _ rfl rfl (.inl ⟨_, rfl⟩)
      all_goals exact .kept rfl (.inl ⟨_, rfl⟩)
  | postpone reason =>
      cases reason
      case dependencyWaits => exact .popped _ rfl rfl (.inl ⟨_, rfl⟩)
      all_goals exact .kept rfl (.inl ⟨_, rfl⟩)
  | fail reason =>
      cases reason
      case requested => exact .popped _ rfl rfl (.inl ⟨_, rfl⟩)
      all_goals exact .kept rfl (.inl ⟨_, rfl⟩)
  | advance reason =>
      cases reason
      case loadedBefore => exact .kept rfl (.inr rfl)
      case loadedNow => exact .popped _ rfl rfl (.inr rfl)
  | goOn reason =>
      cases reason
      case requested => exact .popped _ rfl rfl (.inr rfl)
      all_goals exact .kept rfl (.inr rfl)
  | descend | call | resumeNext | sweepNext | settleNext => exact .pushed _ rfl rfl
  | returned | sweptOne | resumedOne | settledOne => exact .popped _ rfl rfl (.inr rfl)
  | enter | begin | finish | declare | callAll | sweepEnd | settleRound | conclude =>
      exact .kept rfl (.inr rfl)

/-- A request for `name` over `frames` is part way through. -/
def Busy (machine : Machine) (name : String) (frames : List Frame) : Prop :=
  machine.frames = frames ∧ machine.control.subject? = some name ∨
    ∃ frame, frame :: frames <:+ machine.frames ∧ frame.subject? = some name

theorem not_cons_suffix {frame : Frame} : ¬ frame :: frames <:+ frames := by
  intro longer
  have length := longer.length_le
  rw [List.length_cons] at length
  omega

theorem Busy.not_answered (busy : machine.Busy name machine.frames) (result : Except LoadError Outcome) :
    machine.control ≠ .answered result := by
  intro answered
  rcases busy with ⟨-, subject⟩ | ⟨frame, above, -⟩
  · rw [answered] at subject
    cases subject
  · exact not_cons_suffix above

theorem Step.busy (step : Step machine next) (busy : machine.Busy name frames) :
    next.Busy name frames ∨ next.frames = frames ∧ ∃ result, next.control = .answered result := by
  cases step.handed with
  | kept same subject =>
      rcases busy with ⟨rfl, control⟩ | ⟨frame, above, held⟩
      · rcases subject with answered | subject
        · exact .inr ⟨same, answered⟩
        · exact .inl (.inl ⟨same, subject.trans control⟩)
      · exact .inl (.inr ⟨frame, same ▸ above, held⟩)
  | pushed top pushed subject =>
      rcases busy with ⟨rfl, control⟩ | ⟨frame, above, held⟩
      · exact .inl (.inr ⟨top, pushed ▸ List.suffix_rfl, subject.trans control⟩)
      · exact .inl (.inr ⟨frame, pushed ▸ above.trans (List.suffix_cons ..), held⟩)
  | popped top popped idle subject =>
      rcases busy with ⟨-, control⟩ | ⟨frame, above, held⟩
      · cases idle.symm.trans control
      · -- The answer is for the frame next above `frames`, or for one further up.
        rw [popped] at above
        rcases List.suffix_cons_iff.mp above with same | below
        · cases same
          rcases subject with answered | subject
          · exact .inr ⟨rfl, answered⟩
          · exact .inl (.inl ⟨rfl, subject.trans held⟩)
        · exact .inl (.inr ⟨frame, below, held⟩)

structure Expels (machine next : Machine) (culprit : String) : Prop where
  ends : machine.Ends next culprit
  queue : ∀ blocker, next.loader.tracker.queue blocker =
    (machine.loader.tracker.drop [culprit]).1.queue blocker

theorem Expels.drops (expels : machine.Expels next name) : machine.Drops next name :=
  ⟨name, expels.ends, .root (List.mem_singleton.mpr rfl)⟩

theorem Expels.drops_of_left {blocker waiter : String} (expels : machine.Expels next name)
    (queued : waiter ∈ machine.loader.tracker.queue blocker)
    (left : waiter ∉ next.loader.tracker.queue blocker) : machine.Drops next waiter := by
  refine ⟨name, expels.ends, .waits queued ?_⟩
  apply Classical.byContradiction
  intro apart
  rw [expels.queue, Tracker.queue_drop_of_apart _ _ _ apart] at left
  exact left queued

def WorksOver (machine : Machine) (name : String) (frames : List Frame) : Prop :=
  frames = machine.frames ∧ machine.control.subject? = some name ∨
    ∃ frame, machine.frames = frame :: frames ∧ frame.subject? = some name

theorem Step.culprit (active : machine.Active) (step : Step machine next)
    (control : next.control = .answered (.error error)) :
    ∃ culprit, machine.Expels next culprit ∧ machine.WorksOver culprit next.frames := by
  cases step with
  | reject reason =>
      refine ⟨_, ⟨.rejected reason, ?_⟩, ?_⟩
      · intro blocker
        rw [Loader.tracker_dropBehind, reason.tracker_eq]
      · cases reason
        case passedOn => exact .inr ⟨_, rfl, rfl⟩
        all_goals exact .inl ⟨rfl, rfl⟩
  | fail reason failing =>
      refine ⟨_, ⟨.failed (active.isFailed_fail reason _ _), active.queue_fail reason _ _⟩, ?_⟩
      cases reason
      case requested => exact .inr ⟨_, rfl, rfl⟩
      all_goals exact .inl ⟨rfl, rfl⟩
  | _ => cases control

theorem Busy.eq_of_worksOver {culprit : String} (busy : machine.Busy name frames)
    (works : machine.WorksOver culprit frames) : culprit = name := by
  refine Option.some.inj ?_
  rcases works with ⟨kept, subject⟩ | ⟨top, popped, subject⟩
  · rcases busy with ⟨-, held⟩ | ⟨frame, above, -⟩
    · exact subject.symm.trans held
    · exact absurd (kept ▸ above) not_cons_suffix
  · rcases busy with ⟨same, -⟩ | ⟨frame, above, held⟩
    · exact absurd (popped.symm.trans same) (List.cons_ne_self _ _)
    · rw [popped] at above
      rcases List.suffix_cons_iff.mp above with equal | below
      · cases equal
        exact subject.symm.trans held
      · exact absurd below not_cons_suffix

theorem Step.expels_of_busy (active : machine.Active) (step : Step machine next)
    (busy : machine.Busy name next.frames) (control : next.control = .answered (.error error)) :
    machine.Expels next name := by
  obtain ⟨culprit, expels, works⟩ := step.culprit active control
  cases busy.eq_of_worksOver works
  exact expels

end Machine

namespace Pass

variable {pass : Pass} {first count : Nat} {name : String} {result : Except LoadError Outcome}

/-- The request for `name` that is driven at `first` has its answer at `count`, and none before over the same
stack. -/
structure Returns (pass : Pass) (first count : Nat) (name : String) (result : Except LoadError Outcome) :
    Prop where
  later : first < count
  driven : (pass.state first).control = .drive name
  answered : (pass.state count).control = .answered result
  below : (pass.state count).frames = (pass.state first).frames
  waiting : ∀ between, first < between → between < count →
    (pass.state between).frames = (pass.state first).frames →
      ∀ early, (pass.state between).control ≠ .answered early

theorem Returns.state_eq {frames : List Frame} (returns : pass.Returns first count name result)
    (stand : (pass.state first).frames = frames) :
    pass.state count = ⟨(pass.state count).loader, frames, .answered result⟩ :=
  Machine.eq_of_parts (returns.below.trans stand) returns.answered

theorem Returns.busy (returns : pass.Returns first count name result) {between : Nat}
    (after : first ≤ between) (early : between < count) :
    (pass.state between).Busy name (pass.state first).frames := by
  induction after with
  | refl => exact .inl ⟨rfl, by rw [returns.driven]; rfl⟩
  | @step between after ih =>
      have busy := ih (Nat.lt_of_succ_lt early)
      rcases pass.state_cases between with same | step
      · rw [same]
        exact busy
      · rcases step.busy busy with still | ⟨same, result, answered⟩
        · exact still
        · exact absurd answered (returns.waiting _ (Nat.lt_succ_of_le after) early same result)

theorem busy_or_returned (driven : (pass.state first).control = .drive name) (order : first ≤ count) :
    (∀ between, first ≤ between → between ≤ count →
        (pass.state between).Busy name (pass.state first).frames) ∨
      ∃ last result, pass.Returns first last name result := by
  induction order with
  | refl =>
      left
      intro between after early
      cases Nat.le_antisymm early after
      exact .inl ⟨rfl, by rw [driven]; rfl⟩
  | @step count order ih =>
      rcases ih with busy | returned
      · have next : (pass.state (count + 1)).Busy name (pass.state first).frames ∨
            (pass.state (count + 1)).frames = (pass.state first).frames ∧
              ∃ result, (pass.state (count + 1)).control = .answered result := by
          rcases pass.state_cases count with same | step
          · rw [same]
            exact .inl (busy count order (Nat.le_refl count))
          · exact step.busy (busy count order (Nat.le_refl count))
        rcases next with still | ⟨below, result, answered⟩
        · left
          intro between after early
          rcases Nat.le_succ_iff.mp early with before | rfl
          · exact busy between after before
          · exact still
        · refine .inr ⟨count + 1, result, Nat.lt_succ_of_le order, driven, answered, below, ?_⟩
          intro between after early same
          have busy := busy between (Nat.le_of_lt after) (Nat.le_of_lt_succ early)
          rw [← same] at busy
          exact busy.not_answered
      · exact .inr returned

/-- Every request that is driven returns. -/
theorem exists_returns (driven : (pass.state first).control = .drive name) :
    ∃ count result, pass.Returns first count name result := by
  obtain ⟨last, answer, done, -⟩ := pass.exists_done
  have final : pass.state (max first last) = pass.state last := state_of_done done (Nat.le_max_right first last)
  rcases busy_or_returned driven (Nat.le_max_left first last) with busy | returned
  · -- A pass that is done is busy with nothing.
    have busy := busy _ (Nat.le_max_left first last) (Nat.le_refl _)
    rw [final] at busy
    have bare : (pass.state last).frames = [] := (pass.sound last).stacked.bottom (by rw [done]; trivial)
    rcases busy with ⟨-, subject⟩ | ⟨frame, above, -⟩
    · rw [done] at subject
      cases subject
    · rw [bare] at above
      cases List.suffix_nil.mp above
  · exact returned

theorem Returns.expels {error : LoadError} (returns : pass.Returns first (count + 1) name (.error error)) :
    Machine.Step (pass.state count) (pass.state (count + 1)) ∧
      (pass.state count).Expels (pass.state (count + 1)) name := by
  have busy := returns.busy (Nat.le_of_lt_succ returns.later) (Nat.lt_succ_self count)
  rw [← returns.below] at busy
  rcases pass.state_cases count with same | step
  · rw [same] at busy
    exact absurd (same ▸ returns.answered) (busy.not_answered _)
  · exact ⟨step, step.expels_of_busy (pass.sound count).active busy returns.answered⟩

section Requests

variable {goal : String} {strict : Bool} {last : Nat} {result : Except LoadError Outcome}

theorem state_zero (asks : pass.action = .request goal strict) :
    pass.state 0 = ⟨pass.loader, [.requesting .outermost goal], .drive goal⟩ := by
  obtain ⟨loader, reachable, action⟩ := pass
  cases asks
  rfl

theorem exists_returns_of_request (asks : pass.action = .request goal strict) :
    ∃ last result, pass.Returns 0 last goal result :=
  exists_returns (by rw [state_zero asks])

theorem step_before_return (returns : pass.Returns 0 last goal result) (early : count < last) :
    Machine.Step (pass.state count) (pass.state (count + 1)) := by
  rcases pass.done_or_step count with ⟨answer, done⟩ | step
  · have answered := returns.answered
    rw [state_of_done done (Nat.le_of_lt early), done] at answered
    cases answered
  · exact step

theorem stands_before_return (asks : pass.action = .request goal strict)
    (returns : pass.Returns 0 last goal result) (early : count < last) (other : Except LoadError Outcome)
    (bottom : (pass.state count).frames = [.requesting .outermost goal]) :
    (pass.state count).control ≠ .answered other := by
  intro answered
  rcases Nat.eq_zero_or_pos count with rfl | later
  · rw [state_zero asks] at answered
    cases answered
  · refine returns.waiting count later early ?_ other answered
    rw [bottom, state_zero asks]

theorem state_of_returns (asks : pass.action = .request goal strict) (returns : pass.Returns 0 last goal result) :
    pass.state last = ⟨(pass.state last).loader, [.requesting .outermost goal], .answered result⟩ :=
  returns.state_eq (by rw [state_zero asks])

theorem state_after_return (asks : pass.action = .request goal strict)
    (returns : pass.Returns 0 last goal result) :
    pass.state (last + 1) = ⟨(pass.state last).loader, [], .settle (.request goal result) []⟩ := by
  have answered := state_of_returns asks returns
  apply state_of_step
  rw [answered]
  rfl

theorem gone_after_return (asks : pass.action = .request goal strict) (returns : pass.Returns 0 last goal result)
    (late : last < count) : .requesting .outermost goal ∉ (pass.state count).frames := by
  induction late with
  | refl =>
      rw [state_after_return asks returns]
      exact List.not_mem_nil
  | @step count late ih =>
      rcases pass.state_cases count with same | step
      · rw [same]
        exact ih
      · intro member
        rcases step.mem_frames member with below | inHand
        · exact ih below
        · exact Control.inHand?_ne_outermost inHand

theorem eq_last_of_answered {other : Except LoadError Outcome} (asks : pass.action = .request goal strict)
    (returns : pass.Returns 0 last goal result)
    (own : (pass.state count).frames = [.requesting .outermost goal])
    (answered : (pass.state count).control = .answered other) : count = last := by
  rcases Nat.lt_trichotomy count last with early | same | late
  · exact absurd answered (stands_before_return asks returns early other own)
  · exact same
  · have gone := gone_after_return asks returns late
    rw [own] at gone
    exact absurd (List.mem_cons_self ..) gone

theorem result_of_holds {other : Except LoadError Outcome} (asks : pass.action = .request goal strict)
    (returns : pass.Returns 0 last goal result) (holds : (pass.state count).Holds (.request goal other)) :
    other = result := by
  induction count with
  | zero => exact absurd holds (Machine.not_holds_start _ _)
  | succ count ih =>
      rcases pass.state_cases count with same | step
      · exact ih (same ▸ holds)
      · rcases step.holds_request holds with held | returned
        · exact ih held
        · have standing : .requesting .outermost goal :: (pass.state (count + 1)).frames =
              (pass.state count).frames := by rw [returned]
          have bottom := (pass.sound count).stacked.frames
          rw [← standing] at bottom
          have own : (pass.state count).frames = [.requesting .outermost goal] := by
            rw [← standing, bottom.1 trivial]
          have answered : (pass.state count).control = .answered other := by rw [returned]
          cases eq_last_of_answered asks returns own answered
          exact Control.answered.inj (answered.symm.trans returns.answered)

end Requests

end Pass

end DemandLoad
