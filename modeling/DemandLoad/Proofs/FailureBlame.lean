import DemandLoad.Proofs.ErrorReports
import DemandLoad.Proofs.RequestReturns
import DemandLoad.Proofs.WriteOnceSessions

/-!
Which error a request returns for its own library. The outermost request ends in the failure of its own target
only if it began the load itself. If another request of the pass did, it ends in a different error, and the
failure is listed beside it.
-/

namespace DemandLoad

def LoadError.blamed? : LoadError → Option String
  | loadFailed failure => some failure.library
  | alreadyFailed library => some library
  | unknown _ _ _ | dependencyFailed _ _ | dependencyCycle _ | refused _ => none

theorem Control.subject?_of_inHand {control : Control} {frame : Frame} (inHand : control.inHand? = some frame) :
    frame.subject? = control.subject? ∧ ∀ name, control ≠ .drive name := by
  unfold Control.inHand? at inHand
  split at inHand <;> cases inHand
  all_goals exact ⟨rfl, by simp⟩

namespace Machine

variable {machine next : Machine} {loader : Loader} {frames : List Frame} {name library cause : String}

structure Apart (machine : Machine) : Prop where
  control : ∀ library, machine.control.subject? = some library → (∀ name, machine.control ≠ .drive name) →
    library ∉ walkOf machine.frames
  frames : ∀ frame below library, frame :: below <:+ machine.frames → frame.subject? = some library →
    library ∉ walkOf below
  driven : ∀ name, machine.control = .drive name →
    walkOf machine.frames = [] ∨ machine.loader.status name = .unloaded
  blamed : ∀ error library, machine.control = .answered (.error error) → error.blamed? = some library →
    library ∉ walkOf machine.frames

theorem Answers.apart {action : Action} {rest : List Action} {answer : Answer} (apart : machine.Apart)
    (reason : Answers machine frames library action rest answer) : library ∉ walkOf frames := by
  cases reason with
  | told | failing | swept => exact apart.control library rfl (by simp)
  | requested => exact apart.frames _ _ library List.suffix_rfl rfl

theorem Rejects.apart {error : LoadError} (apart : machine.Apart)
    (reason : Rejects machine loader frames name error) (blames : error.blamed? = some library) :
    library ∉ walkOf frames := by
  cases reason with
  | cycle | dependencyFailed | refused => cases blames
  | failedMeanwhile =>
      cases blames
      exact apart.control name rfl (by simp)
  | failedBefore loading =>
      cases blames
      rcases apart.driven name rfl with bare | idle
      · rw [show walkOf frames = [] from bare]
        exact List.not_mem_nil
      · cases idle.symm.trans loading
  | passedOn =>
      have outside := apart.blamed _ _ rfl blames
      exact fun member => outside (List.mem_cons_of_mem _ member)

theorem Apart.control_step (apart : machine.Apart) (step : Step machine next)
    (subject : next.control.subject? = some library) (parted : ∀ name, next.control ≠ .drive name) :
    library ∉ walkOf next.frames := by
  cases step with
  | enter idle known fresh => cases subject; exact fresh
  | begin | finish | declare => cases subject; exact apart.control _ rfl (by simp)
  | callAll => exact apart.control library subject (by simp)
  | advance reason =>
      cases subject
      cases reason with
      | loadedBefore => exact apart.control _ rfl (by simp)
      | loadedNow => exact apart.frames _ _ _ List.suffix_rfl rfl
  | goOn reason => cases subject; exact reason.apart apart
  | sweptOne => exact apart.frames _ _ library List.suffix_rfl subject
  | resumedOne => exact apart.frames _ _ library List.suffix_rfl subject
  | descend | call | resumeNext | sweepNext | settleNext => exact absurd rfl (parted _)
  | _ => cases subject

theorem Apart.step (apart : machine.Apart) (active : machine.Active) (step : Step machine next) :
    next.Apart where
  control _ subject parted := apart.control_step step subject parted
  frames := by
    intro frame below library standing subject
    rcases step.suffix_frames standing with old | ⟨inHand, rfl⟩
    · exact apart.frames frame below library old subject
    · obtain ⟨same, parted⟩ := Control.subject?_of_inHand inHand
      exact apart.control library (same.symm.trans subject) parted
  driven := by
    intro name driven
    cases step with
    | descend idle => cases driven; exact .inr idle
    | call | resumeNext | sweepNext | settleNext => exact .inl rfl
    | _ => cases driven
  blamed := by
    intro error library answered blames
    cases step with
    | reject reason => cases answered; exact reason.apart apart blames
    | fail reason failing =>
        cases answered
        rw [(active.failTarget_eq reason _ _).2.2] at blames
        cases blames
        exact reason.apart apart
    | _ => cases answered

theorem Apart.start (loader : Loader) (action : Action) : (Machine.start loader action).Apart := by
  have bare : walkOf (Machine.start loader action).frames = [] := by cases action <;> rfl
  refine ⟨?_, ?_, fun _ _ => .inl bare, ?_⟩
  · intro library _ _
    rw [bare]
    exact List.not_mem_nil
  · intro frame below library standing subject
    cases action with
    | request =>
        rcases List.suffix_cons_iff.mp standing with same | none_left
        · cases same
          cases subject
        · cases List.suffix_nil.mp none_left
    | register | requestAll | fail | query => cases List.suffix_nil.mp standing
  · intro error library _ _
    rw [bare]
    exact List.not_mem_nil

theorem Step.pushed_of_driven (step : Step machine next) (driven : next.control = .drive name) :
    ∃ frame, next.frames = frame :: machine.frames ∧ machine.control.inHand? = some frame := by
  cases step with
  | descend | call | resumeNext | sweepNext | settleNext => exact ⟨_, rfl, rfl⟩
  | _ => cases driven

/-- The target of the library fails with the next step, over the stack `frames`. -/
def FailsOver (machine : Machine) (library cause : String) (frames : List Frame) : Prop :=
  ∃ action rest answer, Answers machine frames library action rest answer ∧
    action.failure? answer = some cause

theorem FailsOver.of_fail {rest : List Action} (control : machine.control = .perform library (.fail cause :: rest)) :
    machine.FailsOver library cause machine.frames := by
  obtain ⟨loader, frames, _⟩ := machine
  cases control
  exact ⟨_, _, _, .failing, rfl⟩

theorem FailsOver.step (active : machine.Active) (fails : machine.FailsOver library cause frames)
    (step : Step machine next) :
    next.frames = frames ∧ next.control = .answered (.error (.loadFailed ⟨library, cause⟩)) ∧
      next.loader.isFailed library = true ∧ next.loader.failures = machine.loader.failures ++ [⟨library, cause⟩] := by
  obtain ⟨action, rest, answer, reason, failing⟩ := fails
  cases step.unique (.fail reason failing)
  obtain ⟨-, failures, error⟩ := active.failTarget_eq reason (.performed library action answer) cause
  refine ⟨rfl, ?_, active.isFailed_fail reason _ _, failures⟩
  rw [error]

theorem FailsOver.sound (active : machine.Active) (fails : machine.FailsOver library cause frames) :
    machine.loader.isFailed library = false := by
  obtain ⟨action, rest, answer, reason, -⟩ := fails
  exact (active.of_answers reason).2

theorem Step.failsOver (sound : machine.Sound) (apart : machine.Apart) (step : Step machine next)
    (own : next.frames = [.requesting .outermost name])
    (failed : next.control = .answered (.error (.loadFailed ⟨name, cause⟩))) :
    machine.FailsOver name cause [.requesting .outermost name] := by
  cases step with
  | fail reason failing =>
      have told := (FailsOver.step sound.active ⟨_, _, _, reason, failing⟩ (.fail reason failing)).2.1
      cases told.symm.trans failed
      cases own
      exact ⟨_, _, _, reason, failing⟩
  | reject reason =>
      cases failed
      cases reason with
      | passedOn =>
          cases own
          have same := (sound.stacked.frames.2.1 _ rfl _ rfl).symm
          cases same
          exact absurd (List.mem_cons_self ..) (apart.blamed _ _ rfl rfl)
  | _ => cases failed

theorem Step.of_alreadyFailed (sound : machine.Sound) (apart : machine.Apart) (step : Step machine next)
    (own : next.frames = [.requesting .outermost name])
    (failed : next.control = .answered (.error (.alreadyFailed name))) :
    (machine.control = .drive name ∨ machine.control = .walk name []) ∧
      machine.frames = [.requesting .outermost name] ∧ machine.loader.isFailed name = true := by
  cases step with
  | fail reason failing =>
      have told := (FailsOver.step sound.active ⟨_, _, _, reason, failing⟩ (.fail reason failing)).2.1
      cases told.symm.trans failed
  | reject reason =>
      cases failed
      cases reason with
      | failedBefore loading failed => exact ⟨.inl rfl, own, failed⟩
      | failedMeanwhile loading failed => exact ⟨.inr rfl, own, failed⟩
      | passedOn =>
          cases own
          have same := (sound.stacked.frames.2.1 _ rfl _ rfl).symm
          cases same
          exact absurd (List.mem_cons_self ..) (apart.blamed _ _ rfl rfl)
  | _ => cases failed

end Machine

theorem Settles.error_iff {loader : Loader} {unknown : Option LoadError} {name : String}
    {result final : Except LoadError Outcome} {error : LoadError}
    (settles : Settles loader unknown name result final) (known : error.involves name = false) :
    final = .error error ↔ result = .error error := by
  cases settles with
  | failed => rfl
  | answered | loaded | forgotten => simp
  | givenUp other waits given told =>
      constructor
      · intro same
        cases same
        cases known.symm.trans told
      · rintro ⟨⟩

namespace Pass

variable {pass : Pass} {name cause : String} {strict : Bool} {first last count : Nat} {frames : List Frame}
  {result other : Except LoadError Outcome}

theorem apart (pass : Pass) (count : Nat) : (pass.state count).Apart := by
  induction count with
  | zero => exact .start pass.loader pass.action
  | succ count ih =>
      rcases pass.state_cases count with same | step
      · rw [same]
        exact ih
      · exact ih.step (pass.sound count).active step

theorem eq_zero_of_driven (driven : (pass.state count).control = .drive name)
    (own : (pass.state count).frames = [.requesting .outermost name]) : count = 0 := by
  cases count with
  | zero => rfl
  | succ count =>
      have step : Machine.Step (pass.state count) (pass.state (count + 1)) := by
        rcases pass.done_or_step count with ⟨answer, done⟩ | step
        · rw [state_of_done done (Nat.le_succ count), done] at driven
          cases driven
        · exact step
      obtain ⟨frame, pushed, inHand⟩ := step.pushed_of_driven driven
      rw [(List.cons.inj (pushed.symm.trans own)).1] at inHand
      exact absurd inHand Control.inHand?_ne_outermost

theorem step_of_fails (fails : (pass.state count).FailsOver name cause frames) :
    Machine.Step (pass.state count) (pass.state (count + 1)) := by
  obtain ⟨action, rest, answer, reason, failing⟩ := fails
  have step := Machine.Step.fail reason failing
  rwa [state_of_step step.step?_eq]

theorem state_of_fails (fails : (pass.state count).FailsOver name cause frames) :
    (pass.state (count + 1)).frames = frames ∧
      (pass.state (count + 1)).control = .answered (.error (.loadFailed ⟨name, cause⟩)) ∧
      (pass.state (count + 1)).loader.isFailed name = true ∧
      (pass.state (count + 1)).loader.failures = (pass.state count).loader.failures ++ [⟨name, cause⟩] :=
  fails.step (pass.sound count).active (step_of_fails fails)

theorem eq_of_fails {later : Nat} {reason : String} {above : List Frame}
    (fails : (pass.state count).FailsOver name cause frames)
    (again : (pass.state later).FailsOver name reason above) : count = later ∧ frames = above := by
  have ordered : ∀ {earlier later : Nat} {cause reason : String} {frames above : List Frame},
      (pass.state earlier).FailsOver name cause frames → (pass.state later).FailsOver name reason above →
      later ≤ earlier := by
    intro earlier later cause reason frames above fails again
    apply Nat.le_of_not_lt
    intro before
    have failed := failed_mono before (state_of_fails fails).2.2.1
    cases failed.symm.trans (again.sound (pass.sound later).active)
  cases Nat.le_antisymm (ordered again fails) (ordered fails again)
  exact ⟨rfl, (state_of_fails fails).1.symm.trans (state_of_fails again).1⟩

theorem recorded_mono {failure : TargetFailure} {earlier later : Nat} (order : earlier ≤ later)
    (busy : ∀ answer, (pass.state later).control ≠ .done answer)
    (recorded : failure ∈ (pass.state earlier).loader.failures) :
    failure ∈ (pass.state later).loader.failures := by
  induction order with
  | refl => exact recorded
  | @step later order ih =>
      have before := ih (busy_before busy)
      have sound := pass.sound later
      have step := step_of_busy (busy_before busy)
      rcases step.reports sound.stacked sound.active with ⟨verdict, concludes⟩ | ⟨_, _, reports⟩
      · rw [step.of_concludes concludes] at busy
        exact absurd rfl (busy _)
      · rw [reports.recorded]
        exact List.mem_append_left _ before

theorem lt_of_fails {moment : Nat} {verdict : Verdict} (fails : (pass.state count).FailsOver name cause frames)
    (concludes : (pass.state moment).Concludes verdict) : count < moment := by
  obtain ⟨action, rest, answer, reason, -⟩ := fails
  apply Nat.lt_of_not_le
  intro late
  rcases Nat.eq_or_lt_of_le late with rfl | after
  · have control := concludes.control
    generalize pass.state moment = machine at reason control
    cases reason <;> cases control
  · have next := state_of_step concludes.step?_eq
    have done : (pass.state (moment + 1)).control = .done ((pass.state moment).conclude verdict).answer := by
      rw [next]
      rfl
    have control : (pass.state count).control = _ := (congrArg _ (state_of_done done after)).trans done
    generalize pass.state count = machine at reason control
    cases reason <;> cases control

theorem told_of_fails {moment : Nat} {verdict : Verdict} {final : Except LoadError Outcome}
    {reported : List LoadError} (requests : pass.action.Requests)
    (fails : (pass.state count).FailsOver name cause frames)
    (concludes : (pass.state moment).Concludes verdict)
    (answered : (pass.loader.perform pass.action).2 = .requested final reported) :
    final = .error (.loadFailed ⟨name, cause⟩) ∨ .loadFailed ⟨name, cause⟩ ∈ reported := by
  have busy : ∀ answer, (pass.state moment).control ≠ .done answer := by simp [concludes.control]
  have recorded : ⟨name, cause⟩ ∈ (pass.state (count + 1)).loader.failures := by
    rw [(state_of_fails fails).2.2.2]
    exact List.mem_append_right _ (List.mem_cons_self ..)
  have kept := recorded_mono (lt_of_fails fails concludes) busy recorded
  have told := (perm_of_concludes (pass.accounted requests moment busy) concludes).mem_iff.mpr kept
  rw [answered] at told
  obtain ⟨error, member, same⟩ := List.mem_filterMap.mp told
  have failure : error = .loadFailed ⟨name, cause⟩ := by
    cases error <;> cases same
    rfl
  subst failure
  rcases List.mem_append.mp member with primary | listed
  · left
    cases final with
    | ok outcome => cases primary
    | error other => rw [List.mem_singleton.mp primary]
  · exact .inr listed

theorem exists_final (asks : pass.action = .request name strict) (returns : pass.Returns 0 last name result) :
    ∃ moment verdict final reported, (pass.state moment).Concludes verdict ∧
      (pass.loader.perform pass.action).2 = .requested final reported ∧
      ∀ error : LoadError, error.involves name = false → (final = .error error ↔ result = .error error) := by
  obtain ⟨moment, verdict, concludes, served⟩ := pass.exists_concluded (by rw [asks]; trivial)
  rw [asks] at served
  obtain ⟨other, rfl⟩ := served.exists_result
  cases result_of_holds asks returns concludes.holds
  obtain ⟨unknown, final, reported, answered, -, settles⟩ := perform_request concludes
  exact ⟨moment, _, final, reported, concludes, answered, fun error known => settles.error_iff known⟩

theorem exists_last_step (returns : pass.Returns 0 last name result) :
    ∃ count, last = count + 1 ∧ Machine.Step (pass.state count) (pass.state last) := by
  cases last with
  | zero => exact absurd returns.later (Nat.lt_irrefl 0)
  | succ count => exact ⟨count, rfl, step_before_return returns (Nat.lt_succ_self count)⟩

theorem loadFailed_iff (asks : pass.action = .request name strict) (returns : pass.Returns 0 last name result) :
    result = .error (.loadFailed ⟨name, cause⟩) ↔
      ∃ count, (pass.state count).FailsOver name cause [.requesting .outermost name] := by
  constructor
  · rintro rfl
    have state := state_of_returns asks returns
    obtain ⟨count, rfl, step⟩ := exists_last_step returns
    exact ⟨count, step.failsOver (pass.sound count) (pass.apart count) (by rw [state]) (by rw [state])⟩
  · rintro ⟨count, fails⟩
    obtain ⟨own, answered, -⟩ := state_of_fails fails
    cases eq_last_of_answered asks returns own answered
    exact Control.answered.inj (returns.answered.symm.trans answered)

theorem alreadyFailed_iff (asks : pass.action = .request name strict) (returns : pass.Returns 0 last name result) :
    result = .error (.alreadyFailed name) ↔ pass.loader.isFailed name = true ∨
      ∃ count, (pass.state count).control = .walk name [] ∧
        (pass.state count).frames = [.requesting .outermost name] ∧
        (pass.state count).loader.isFailed name = true := by
  -- A rejection over the frame of the request is the answer of the request.
  have ends : ∀ count loader, (pass.state count).Rejects loader [.requesting .outermost name] name
      (.alreadyFailed name) → result = .error (.alreadyFailed name) := by
    intro count loader reason
    have next := state_of_step (Machine.Step.reject reason).step?_eq
    cases eq_last_of_answered asks returns (by rw [next]) (by rw [next])
    have answered := returns.answered
    rw [next] at answered
    exact Control.answered.inj answered.symm
  constructor
  · rintro rfl
    have state := state_of_returns asks returns
    obtain ⟨count, rfl, step⟩ := exists_last_step returns
    obtain ⟨driven | walked, own, failed⟩ :=
      step.of_alreadyFailed (pass.sound count) (pass.apart count) (by rw [state]) (by rw [state])
    · cases eq_zero_of_driven driven own
      rw [state_zero asks] at failed
      exact .inl failed
    · exact .inr ⟨count, walked, own, failed⟩
  · rintro (failed | ⟨count, walked, own, failed⟩)
    · have loading := (pass.sound 0).active.loading_of_failed name (by rwa [state_zero asks])
      refine ends 0 (pass.loader.announce (.requested name)) ?_
      rw [state_zero asks] at loading ⊢
      exact .failedBefore loading failed
    · have loading := (pass.sound count).active.loading_of_failed name failed
      refine ends count (pass.state count).loader ?_
      generalize pass.state count = machine at walked own failed loading
      obtain ⟨loader, frames, control⟩ := machine
      cases walked
      cases own
      exact .failedMeanwhile loading failed

/-- An outermost request ends in `loadFailed` of its own library exactly if the target fails in the load that
the request itself began, and in `alreadyFailed` exactly if the library had failed at the call or by the end of
its walk. A failure that it does not end in is listed beside its answer. -/
theorem blamed_of_request (pass : Pass) (name : String) (strict : Bool)
    (asks : pass.action = .request name strict) :
    ∃ final reported, (pass.loader.perform pass.action).2 = .requested final reported ∧
      (∀ count cause frames, (pass.state count).FailsOver name cause frames →
        (final = .error (.loadFailed ⟨name, cause⟩) ↔ frames = [.requesting .outermost name]) ∧
        (final = .error (.loadFailed ⟨name, cause⟩) ∨ .loadFailed ⟨name, cause⟩ ∈ reported)) ∧
      (∀ cause, final = .error (.loadFailed ⟨name, cause⟩) →
        ∃ count, (pass.state count).FailsOver name cause [.requesting .outermost name]) ∧
      (final = .error (.alreadyFailed name) ↔ pass.loader.isFailed name = true ∨
        ∃ count, (pass.state count).control = .walk name [] ∧
          (pass.state count).frames = [.requesting .outermost name] ∧
          (pass.state count).loader.isFailed name = true) := by
  obtain ⟨last, result, returns⟩ := exists_returns_of_request asks
  obtain ⟨moment, verdict, final, reported, concludes, answered, settled⟩ := exists_final asks returns
  have own : ∀ cause, final = .error (.loadFailed ⟨name, cause⟩) ↔
      ∃ count, (pass.state count).FailsOver name cause [.requesting .outermost name] :=
    fun cause => (settled _ rfl).trans (loadFailed_iff asks returns)
  refine ⟨final, reported, answered, ?_, fun cause => (own cause).mp,
    (settled _ rfl).trans (alreadyFailed_iff asks returns)⟩
  intro count cause frames fails
  refine ⟨(own cause).trans ⟨?_, ?_⟩, told_of_fails (by rw [asks]; trivial) fails concludes answered⟩
  · rintro ⟨other, again⟩
    exact (eq_of_fails fails again).2
  · rintro rfl
    exact ⟨count, fails⟩

/-- The dependency of `n` requests it, so that its target fails before its own request reaches the load. -/
def preempted : Pass where
  loader := ((Loader.create ⟨false⟩ false).performAll [
    .register "d" [] (.program [.request "n" false]),
    .register "n" ["d"] (.program [.fail "boom"])]).1
  reachable := (Loader.Reachable.create ..).performAll _
  action := .request "n" false

theorem failsOver_preempted : (preempted.state 13).FailsOver "n" "boom" (preempted.state 13).frames :=
  .of_fail (by cbv : (preempted.state 13).control = .perform "n" [.fail "boom"])

theorem answer_preempted : (preempted.loader.perform preempted.action).2 =
    .requested (.error (.alreadyFailed "n")) [.loadFailed ⟨"n", "boom"⟩] := by cbv

theorem blamed_of_request_preempted : preempted.action = .request "n" false ∧
    ∃ final reported, (preempted.loader.perform preempted.action).2 = .requested final reported ∧
      (preempted.state 13).FailsOver "n" "boom" (preempted.state 13).frames ∧
      ¬ final = .error (.loadFailed ⟨"n", "boom"⟩) ∧ .loadFailed ⟨"n", "boom"⟩ ∈ reported := by
  obtain ⟨final, reported, answered, told, -⟩ := blamed_of_request preempted "n" false rfl
  have fails := failsOver_preempted
  obtain ⟨own, told⟩ := told 13 "boom" _ fails
  have apart : (preempted.state 13).frames ≠ [.requesting .outermost "n"] := by
    have three : (preempted.state 13).frames.length = 3 := by cbv
    intro same
    rw [same] at three
    cases three
  exact ⟨rfl, final, reported, answered, fails, fun same => apart (own.mp same),
    told.resolve_left fun same => apart (own.mp same)⟩

/-- The target of the requested library fails for the first time, and the request ends in another error. -/
theorem failed_and_unblamed :
    ¬ ∀ (pass : Pass) (name : String) (strict : Bool), pass.action = .request name strict →
      ∃ final reported, (pass.loader.perform pass.action).2 = .requested final reported ∧
        (∀ count cause frames, (pass.state count).FailsOver name cause frames →
          final = .error (.loadFailed ⟨name, cause⟩)) ∧
        (final = .error (.alreadyFailed name) → pass.loader.isFailed name = true) := by
  intro always
  obtain ⟨final, reported, answered, blames, -⟩ := always preempted "n" false rfl
  cases answer_preempted.symm.trans answered
  cases blames 13 "boom" _ failsOver_preempted

end Pass

end DemandLoad
