import DemandLoad.Proofs.PassObservations

namespace DemandLoad

namespace LoadError

def failure? : LoadError → Option TargetFailure
  | loadFailed failure => some failure
  | _ => none

def IsUnknown : LoadError → Prop
  | unknown _ _ _ => True
  | _ => False

end LoadError

def Verdict.errors : Verdict → List LoadError
  | .request _ result => Machine.errorOf result
  | .sweep _ errors => errors

def Frame.errors : Frame → List LoadError
  | .sweeping .outermost _ _ errors => errors
  | .settling verdict _ => verdict.errors
  | _ => []

def Control.errors : Control → List LoadError
  | .answered result => Machine.errorOf result
  | .sweep .outermost _ _ errors => errors
  | .settle verdict _ => verdict.errors
  | _ => []

namespace Machine

variable {machine next : Machine} {loader : Loader} {frames : List Frame} {name blocker : String}

def direct (machine : Machine) : List LoadError :=
  machine.frames.flatMap Frame.errors ++ machine.control.errors

def stray? (machine : Machine) : Option LoadError :=
  match machine.control, machine.frames with
  | .answered (.error error), .resuming _ _ :: _ | .answered (.error error), .settling _ _ :: _ =>
    if error.failedLibrary?.isSome then none else some error
  | _, _ => none

/-- What one step adds to the reports of a pass: target failures, and errors of resumed requests. -/
structure Reports (machine next : Machine) (failures : List TargetFailure) (news : List LoadError) :
    Prop where
  recorded : next.loader.failures = machine.loader.failures ++ failures
  orphaned : next.loader.orphaned = machine.loader.orphaned ++ machine.stray?.toList
  told : next.loader.targetFailures = machine.loader.targetFailures ++ failures
  direct : next.direct.Sublist (machine.direct ++ news)
  failing : news.filterMap LoadError.failure? = failures
  known : ∀ error ∈ news, ¬ error.IsUnknown
  failed : ∀ name, next.loader.isFailed name = true ↔
    machine.loader.isFailed name = true ∨ name ∈ failures.map TargetFailure.library
  fresh : ∀ failure ∈ failures, machine.loader.isFailed failure.library = false
  distinct : (failures.map TargetFailure.library).Nodup

theorem Reports.of_quiet (progress : machine.loader.tracker.failed = next.loader.tracker.failed)
    (buffers : next.loader.buffers = machine.loader.buffers) (deeds : next.loader.deeds = machine.loader.deeds)
    (seen : machine.stray? = none) (news : List LoadError)
    (direct : next.direct.Sublist (machine.direct ++ news))
    (plain : news.filterMap LoadError.failure? = []) (known : ∀ error ∈ news, ¬ error.IsUnknown) :
    Reports machine next [] news where
  recorded := by rw [List.append_nil]; exact congrArg Prod.fst buffers
  orphaned := by rw [seen]; exact (congrArg Prod.snd buffers).trans (List.append_nil _).symm
  told := by rw [Loader.targetFailures, deeds, List.append_nil]; rfl
  direct := direct
  failing := plain
  known := known
  failed name := by simp [Loader.isFailed, Tracker.isFailed, progress]
  fresh := by simp
  distinct := .nil

theorem Reports.of_still (progress : machine.loader.tracker.failed = next.loader.tracker.failed)
    (buffers : next.loader.buffers = machine.loader.buffers) (deeds : next.loader.deeds = machine.loader.deeds)
    (seen : machine.stray? = none) (direct : next.direct.Sublist machine.direct) :
    Reports machine next [] [] :=
  .of_quiet progress buffers deeds seen [] (by rwa [List.append_nil]) rfl (by simp)

theorem Reports.of_rejected {error : LoadError} (tracker : loader.tracker = machine.loader.tracker)
    (buffers : loader.buffers = machine.loader.buffers) (deeds : loader.deeds = machine.loader.deeds)
    (seen : machine.stray? = none) (same : machine.frames = frames)
    (plain : error.failure? = none) (known : ¬ error.IsUnknown) :
    Reports machine ⟨loader.dropBehind name, frames, .answered (.error error)⟩ [] [error] := by
  subst same
  refine .of_quiet ?_ (by simpa using buffers) (by simpa using deeds) seen _ ?_ ?_ ?_
  · rw [Loader.tracker_dropBehind, Tracker.failed_drop, tracker]
  · simp [Machine.direct, Control.errors, errorOf]
  · simp [plain]
  · simpa using known

theorem Succeeds.reports {outcome : Outcome} (reason : Succeeds machine loader frames name outcome) :
    Reports machine ⟨loader, frames, .answered (.ok outcome)⟩ [] [] := by
  cases reason <;> exact .of_still rfl rfl (by simp) rfl (List.Sublist.refl _)

theorem Remembers.reports (reason : Remembers machine loader frames name) :
    Reports machine ⟨loader.remember name, frames, .answered (.ok .deferred)⟩ [] [] := by
  cases reason <;> exact .of_still (by simp) (by simp) (by simp) rfl (List.Sublist.refl _)

theorem Postpones.reports (reason : Postpones machine loader frames name blocker) :
    Reports machine ⟨loader.defer name blocker, frames, .answered (.ok .deferred)⟩ [] [] := by
  have failed : (loader.defer name blocker).tracker.failed = loader.tracker.failed := by
    rw [Loader.tracker_defer, Tracker.failed_defer]
  cases reason
  all_goals exact .of_still failed.symm (by simp) (by simp) rfl (List.Sublist.refl _)

theorem Rejects.reports {error : LoadError} (reason : Rejects machine loader frames name error) :
    ∃ news, Reports machine ⟨loader.dropBehind name, frames, .answered (.error error)⟩ [] news := by
  cases reason
  case passedOn => exact ⟨[], .of_still rfl (by simp) (by simp) rfl (List.Sublist.refl _)⟩
  all_goals exact ⟨_, .of_rejected rfl (by simp) (by simp) rfl rfl rfl id⟩

theorem Answers.stray_eq {library : String} {action : Action} {rest : List Action} {answer : Answer}
    (reason : Answers machine frames library action rest answer) : machine.stray? = none := by
  cases reason with
  | @requested _ _ _ _ _ _ result => cases result <;> rfl
  | _ => rfl

theorem Answers.direct {library : String} {action : Action} {rest : List Action} {answer : Answer}
    (reason : Answers machine frames library action rest answer) :
    (frames.flatMap Frame.errors).Sublist machine.direct := by
  cases reason <;> simp [Machine.direct, Frame.errors]

theorem targetFailures_note (loader : Loader) (library : String) (action : Action) (answer : Answer) :
    (loader.note (.performed library action answer)).targetFailures =
      loader.targetFailures ++ ((action.failure? answer).map (TargetFailure.mk library)).toList := by
  rw [Loader.targetFailures, Loader.deeds_note, List.filterMap_append]
  cases failure : action.failure? answer <;> simp [Event.deed?, Deed.failure?, failure, Loader.targetFailures]

theorem Reports.of_deed {library : String} {action : Action} {answer : Answer} {control : Control}
    (sound : action.failure? answer = none) (tracker : loader.tracker = machine.loader.tracker)
    (buffers : loader.buffers = machine.loader.buffers) (deeds : loader.deeds = machine.loader.deeds)
    (seen : machine.stray? = none)
    (direct : (frames.flatMap Frame.errors ++ control.errors).Sublist machine.direct) :
    Reports machine ⟨loader.note (.performed library action answer), frames, control⟩ [] [] where
  recorded := (congrArg Prod.fst buffers).trans (List.append_nil _).symm
  orphaned := by
    rw [seen]
    exact (congrArg Prod.snd buffers).trans (List.append_nil _).symm
  told := by
    rw [targetFailures_note, sound, Loader.targetFailures, deeds]
    rfl
  direct := by
    rw [List.append_nil]
    exact direct
  failing := rfl
  known := by simp
  failed name := by simp [Loader.isFailed, tracker]
  fresh := by simp
  distinct := .nil

theorem Answers.reports_failure {library : String} {action : Action} {rest : List Action}
    {answer : Answer} {cause : String} (active : machine.Active)
    (reason : Answers machine frames library action rest answer)
    (failing : action.failure? answer = some cause) :
    Reports machine
      ⟨((machine.loader.note (.performed library action answer)).failTarget library cause).1.dropBehind
          library, frames,
        .answered (.error
          ((machine.loader.note (.performed library action answer)).failTarget library cause).2)⟩
      [⟨library, cause⟩] [.loadFailed ⟨library, cause⟩] where
  recorded := (active.failTarget_eq reason _ cause).2.1
  orphaned := by
    rw [reason.stray_eq]
    exact (Loader.orphaned_failTarget ..).trans (List.append_nil _).symm
  told := by
    rw [Loader.targetFailures, Loader.deeds_dropBehind, Loader.deeds_failTarget]
    refine (targetFailures_note ..).trans ?_
    rw [failing]
    rfl
  direct := by
    rw [(active.failTarget_eq reason _ cause).2.2]
    exact reason.direct.append (List.Sublist.refl _)
  failing := rfl
  known := by simp [LoadError.IsUnknown]
  failed name := by
    rw [Loader.isFailed, Loader.tracker_dropBehind, (active.failTarget_eq reason _ cause).1]
    simp [Loader.isFailed, Tracker.isFailed, Tracker.failing]
  fresh := by simpa using (active.of_answers reason).2
  distinct := by simp

def leftOver : Except LoadError Outcome → List LoadError
  | .ok _ => []
  | .error error => if error.failedLibrary?.isSome then [] else [error]

theorem buffers_orphan (loader : Loader) (result : Except LoadError Outcome) :
    (loader.orphan result).buffers = (loader.failures, loader.orphaned ++ leftOver result) := by
  cases result with
  | ok outcome => simp [Loader.orphan, Loader.buffers, leftOver]
  | error error => simp only [Loader.orphan, leftOver]; split <;> simp [Loader.buffers]

theorem Reports.of_orphan {result : Except LoadError Outcome} {control : Control}
    (seen : machine.stray?.toList = leftOver result)
    (direct : (frames.flatMap Frame.errors ++ control.errors).Sublist machine.direct) :
    Reports machine ⟨machine.loader.orphan result, frames, control⟩ [] [] where
  recorded := (congrArg Prod.fst (buffers_orphan ..)).trans (List.append_nil _).symm
  orphaned := by
    rw [seen]
    exact congrArg Prod.snd (buffers_orphan ..)
  told := by
    rw [Loader.targetFailures, Loader.deeds_orphan, List.append_nil]
    rfl
  direct := by
    rw [List.append_nil]
    exact direct
  failing := rfl
  known := by simp
  failed name := by simp [Loader.isFailed]
  fresh := by simp
  distinct := .nil

theorem stray_resuming {library : String} {rest : List String} (result : Except LoadError Outcome) :
    (stray? ⟨loader, .resuming library rest :: frames, .answered result⟩).toList = leftOver result := by
  cases result with
  | ok outcome => rfl
  | error error => simp only [stray?, leftOver]; split <;> rfl

theorem stray_settling {verdict : Verdict} {rest : List String} (result : Except LoadError Outcome) :
    (stray? ⟨loader, .settling verdict rest :: frames, .answered result⟩).toList = leftOver result := by
  cases result with
  | ok outcome => rfl
  | error error => simp only [stray?, leftOver]; split <;> rfl

theorem stray_sweeping {caller : Caller} {before : Nat} {rest : List String} {errors : List LoadError}
    (result : Except LoadError Outcome) :
    stray? ⟨loader, .sweeping caller before rest errors :: frames, .answered result⟩ = none := by
  cases result <;> rfl

theorem stray_requesting {caller : Caller} (result : Except LoadError Outcome) :
    stray? ⟨loader, .requesting caller name :: frames, .answered result⟩ = none := by
  cases result <;> rfl

theorem mem_direct_of_stray {error : LoadError} (seen : machine.stray? = some error) :
    error ∈ machine.direct ∧ error.failure? = none := by
  unfold stray? at seen
  split at seen
  case h_3 => cases seen
  all_goals
    rename_i control frames
    split at seen
    · cases seen
    case isFalse kept =>
      cases seen
      refine ⟨List.mem_append_right _ ?_, ?_⟩
      · simp [control, Control.errors, errorOf]
      · cases error <;> simp_all [LoadError.failedLibrary?, LoadError.failure?]

theorem Step.reports (stacked : machine.Stacked) (active : machine.Active) (step : Step machine next) :
    (∃ verdict, machine.Concludes verdict) ∨ ∃ failures news, Reports machine next failures news := by
  cases step with
  | conclude settled => exact .inl ⟨_, rfl, settled⟩
  | succeed reason => exact .inr ⟨_, _, reason.reports⟩
  | reject reason => exact .inr ⟨_, reason.reports⟩
  | postpone reason => exact .inr ⟨_, _, reason.reports⟩
  | remember reason => exact .inr ⟨_, _, reason.reports⟩
  | fail reason failing => exact .inr ⟨_, _, reason.reports_failure active failing⟩
  | goOn reason sound =>
      refine .inr ⟨_, _, .of_deed sound rfl rfl rfl reason.stray_eq ?_⟩
      simpa [Control.errors] using reason.direct
  | declare =>
      refine .inr ⟨_, _, .of_deed rfl ?_ (by simp) (by simp) rfl (List.Sublist.refl _)⟩
      exact Loader.tracker_declare ..
  | advance reason =>
      right
      cases reason <;> exact ⟨_, _, .of_still rfl rfl rfl rfl (List.Sublist.refl _)⟩
  | begin =>
      refine .inr ⟨_, _, .of_still ?_ ?_ ?_ rfl (List.Sublist.refl _)⟩
      · rw [Loader.tracker_noteTarget]
        rfl
      · rw [Loader.buffers_noteTarget]
        rfl
      · rw [Loader.deeds_noteTarget]
        exact Loader.deeds_announce ..
  | finish finished =>
      obtain ⟨-, -, rfl, -⟩ := Tracker.finish_eq_ok finished
      exact .inr ⟨_, _, .of_still rfl rfl (Loader.deeds_announce ..) rfl (List.Sublist.refl _)⟩
  | enter | descend | call | resumeNext | sweepEnd | settleRound =>
      exact .inr ⟨_, _, .of_still rfl (by simp) (by simp) rfl (List.Sublist.refl _)⟩
  | callAll => exact .inr ⟨_, _, .of_still rfl rfl rfl rfl (List.Sublist.refl _)⟩
  | @sweepNext _ frames caller =>
      refine .inr ⟨_, _, .of_still rfl rfl rfl rfl ?_⟩
      cases caller with
      | outermost => cases stacked.bottom trivial; simp [direct, Frame.errors, Control.errors]
      | program => exact List.Sublist.refl _
  | settleNext =>
      refine .inr ⟨_, _, .of_still rfl (by simp) (by simp) rfl ?_⟩
      cases stacked.bottom trivial
      simp [direct, Frame.errors, Control.errors]
  | returned => exact .inr ⟨_, _, .of_still rfl rfl rfl (stray_requesting _) (List.Sublist.refl _)⟩
  | @sweptOne _ frames caller =>
      refine .inr ⟨_, _, .of_still rfl rfl rfl (stray_sweeping _) ?_⟩
      cases caller with
      | outermost => cases stacked.frames.1 trivial; simp [direct, Frame.errors, Control.errors]
      | program => simp [direct, Frame.errors, Control.errors]
  | resumedOne => exact .inr ⟨_, _, .of_orphan (stray_resuming _) (by simp [direct, Frame.errors, Control.errors])⟩
  | settledOne =>
      refine .inr ⟨_, _, .of_orphan (stray_settling _) ?_⟩
      cases stacked.frames.1 trivial
      simp [direct, Frame.errors, Control.errors]

end Machine

namespace Pass

variable {pass : Pass} {count : Nat}

/-- The invariant of a pass that is not done: failures and the errors of resumed requests are recorded, and each
failure is on its way to the outermost request at most once. -/
structure Accounted (pass : Pass) (count : Nat) : Prop where
  told : (pass.state count).loader.targetFailures =
    pass.loader.targetFailures ++ (pass.state count).loader.failures
  orphaned : (pass.state count).loader.orphaned = pass.collect Machine.stray? count
  failed : ∀ name, (pass.state count).loader.isFailed name = true ↔
    pass.loader.isFailed name = true ∨
      name ∈ (pass.state count).loader.failures.map TargetFailure.library
  fresh : ∀ failure ∈ (pass.state count).loader.failures, pass.loader.isFailed failure.library = false
  distinct : ((pass.state count).loader.failures.map TargetFailure.library).Nodup
  recorded : ∀ failure ∈ (pass.state count).direct.filterMap LoadError.failure?,
    failure ∈ (pass.state count).loader.failures
  once : ((pass.state count).direct.filterMap LoadError.failure?).Nodup
  known : ∀ error ∈ (pass.state count).direct, ¬ error.IsUnknown
  strays : ∀ error ∈ (pass.state count).loader.orphaned, error.failure? = none ∧ ¬ error.IsUnknown

theorem Accounted.direct_step {failures : List TargetFailure} {news : List LoadError}
    (reports : Machine.Reports (pass.state count) (pass.state (count + 1)) failures news) :
    ((pass.state (count + 1)).direct.filterMap LoadError.failure?).Sublist
      ((pass.state count).direct.filterMap LoadError.failure? ++ failures) := by
  have moved := reports.direct.filterMap LoadError.failure?
  rwa [List.filterMap_append, reports.failing] at moved

theorem Accounted.step {failures : List TargetFailure} {news : List LoadError}
    (accounted : Accounted pass count)
    (reports : Machine.Reports (pass.state count) (pass.state (count + 1)) failures news) :
    Accounted pass (count + 1) where
  told := by
    rw [reports.told, reports.recorded, accounted.told, List.append_assoc]
  orphaned := by
    rw [reports.orphaned, accounted.orphaned, collect_succ]
  failed name := by
    rw [reports.failed, accounted.failed, reports.recorded, List.map_append, List.mem_append, or_assoc]
  fresh failure member := by
    rw [reports.recorded] at member
    rcases List.mem_append.mp member with old | new
    · exact accounted.fresh failure old
    · apply Bool.eq_false_iff.mpr
      intro before
      have failed := (accounted.failed failure.library).mpr (.inl before)
      rw [reports.fresh failure new] at failed
      cases failed
  distinct := by
    rw [reports.recorded, List.map_append]
    refine List.nodup_append.mpr ⟨accounted.distinct, reports.distinct, ?_⟩
    rintro library old _ new rfl
    obtain ⟨failure, added, rfl⟩ := List.mem_map.mp new
    have failed := (accounted.failed failure.library).mpr (.inr old)
    rw [reports.fresh failure added] at failed
    cases failed
  recorded failure member := by
    rw [reports.recorded]
    rcases List.mem_append.mp ((Accounted.direct_step reports).subset member) with old | new
    · exact List.mem_append_left _ (accounted.recorded failure old)
    · exact List.mem_append_right _ new
  once := by
    refine (List.nodup_append.mpr ⟨accounted.once, ?_, ?_⟩).sublist (Accounted.direct_step reports)
    · exact List.Pairwise.of_map _ (fun _ _ apart same => apart (congrArg _ same)) reports.distinct
    · rintro failure old _ new rfl
      have recorded := List.mem_map_of_mem (f := TargetFailure.library) (accounted.recorded failure old)
      have failed := (accounted.failed failure.library).mpr (.inr recorded)
      rw [reports.fresh failure new] at failed
      cases failed
  known error member := by
    rcases List.mem_append.mp (reports.direct.subset member) with old | new
    · exact accounted.known error old
    · exact reports.known error new
  strays error member := by
    rw [reports.orphaned] at member
    rcases List.mem_append.mp member with old | new
    · exact accounted.strays error old
    · obtain ⟨onItsWay, plain⟩ := Machine.mem_direct_of_stray (Option.mem_toList.mp new)
      exact ⟨plain, accounted.known error onItsWay⟩

theorem Accounted.start (requests : pass.action.Requests) : Accounted pass 0 := by
  obtain ⟨loader, reachable, action⟩ := pass
  have buffers := reachable.resting.buffers
  have failures : loader.failures = [] := congrArg Prod.fst buffers
  have orphaned : loader.orphaned = [] := congrArg Prod.snd buffers
  cases action with
  | request name strict =>
      constructor <;> simp [state, Machine.after, Machine.start, Machine.perform, Machine.push, failures,
        orphaned, collect, Machine.direct, Frame.errors, Control.errors]
  | requestAll start strict =>
      constructor <;> simp [state, Machine.after, Machine.start, Machine.perform, Machine.goto, failures,
        orphaned, collect, Machine.direct, Control.errors]
  | register | fail | query => cases requests

theorem accounted (requests : pass.action.Requests) (count : Nat)
    (busy : ∀ answer, (pass.state count).control ≠ .done answer) : Accounted pass count := by
  induction count with
  | zero => exact .start requests
  | succ count ih =>
      have accounted := ih (busy_before busy)
      have sound := pass.sound count
      have step := step_of_busy (busy_before busy)
      rcases step.reports sound.stacked sound.active with ⟨verdict, concludes⟩ | ⟨_, _, reports⟩
      · rw [step.of_concludes concludes] at busy
        exact absurd rfl (busy _)
      · exact accounted.step reports

end Pass

end DemandLoad
