import DemandLoad.Proofs.ErrorAccounting
import DemandLoad.Proofs.OutermostRequests
import DemandLoad.Proofs.OutermostSweep
import Mathlib.Data.List.Nodup

/-!
What an outermost request reports. Each target that failed during the pass is reported once, by the error of the
request itself or in the list beside it. The list also has the errors of resumed requests and, last, the
undeclared names.
-/

namespace DemandLoad

def Answer.primary : Answer → List LoadError
  | .requested result _ => Machine.errorOf result
  | _ => []

def Answer.errors : Answer → List LoadError
  | .requested _ errors | .swept _ errors => errors
  | _ => []

namespace LoadError

variable (failures : List TargetFailure) (strays reported : List LoadError)

theorem failedLibrary?_eq (error : LoadError) :
    error.failedLibrary? = error.failure?.map TargetFailure.library := by
  cases error <;> rfl

/-- The failures among `failures` whose libraries `reported` does not mention. -/
def further (failures : List TargetFailure) (reported : List LoadError) : List TargetFailure :=
  failures.filter fun failure => failure.library ∉ (reported.filterMap failure?).map TargetFailure.library

theorem unreported_map :
    unreported (failures.map loadFailed) reported = (further failures reported).map loadFailed := by
  rw [unreported, further, List.filter_map]
  congr 2
  funext failure
  rw [Function.comp, failedLibrary?_eq, failure?, Option.map_some, Option.all_some, Bool.eq_iff_iff]
  simp only [List.all_eq_true, decide_eq_true_eq, failedLibrary?_eq, List.mem_map, List.mem_filterMap,
    not_exists, not_and, ne_eq, Option.map_eq_some_iff]
  constructor
  · rintro untold other ⟨error, told, same⟩ library
    exact untold error told other same library
  · rintro untold error told other same library
    exact untold other ⟨error, told, same⟩ library

theorem unreported_append (plain : ∀ error ∈ strays, error.failure? = none) :
    unreported (failures.map loadFailed ++ strays) reported =
      (further failures reported).map loadFailed ++ strays := by
  rw [← unreported_map, unreported, List.filter_append, ← unreported]
  congr 1
  apply List.filter_eq_self.mpr
  intro error member
  simp [failedLibrary?_eq, plain error member]

theorem further_of_plain (plain : reported.filterMap failure? = []) : further failures reported = failures := by
  simp [further, plain]

theorem filterMap_loadFailed : (failures.map loadFailed).filterMap failure? = failures := by
  rw [List.filterMap_map]
  exact List.filterMap_some

theorem perm_further (distinct : (failures.map TargetFailure.library).Nodup)
    (once : (reported.filterMap failure?).Nodup)
    (recorded : ∀ failure ∈ reported.filterMap failure?, failure ∈ failures) :
    (reported.filterMap failure? ++ further failures reported).Perm failures := by
  have nodup : failures.Nodup := distinct.of_map
  have apart : ∀ failure, failure ∈ further failures reported ↔
      failure ∈ failures ∧ failure.library ∉ (reported.filterMap failure?).map TargetFailure.library := by
    simp [further]
  refine (List.perm_ext_iff_of_nodup ?_ nodup).mpr ?_
  · refine List.nodup_append.mpr ⟨once, nodup.filter _, ?_⟩
    rintro failure told _ untold rfl
    exact ((apart failure).mp untold).2 (List.mem_map_of_mem told)
  · intro failure
    rw [List.mem_append, apart]
    constructor
    · rintro (told | ⟨member, -⟩)
      · exact recorded failure told
      · exact member
    · intro member
      by_cases told : failure.library ∈ (reported.filterMap failure?).map TargetFailure.library
      · obtain ⟨other, reported, same⟩ := List.mem_map.mp told
        left
        rwa [← List.inj_on_of_nodup_map distinct (recorded other reported) member same]
      · exact .inr ⟨member, told⟩

end LoadError

def Verdict.kept : Verdict → List LoadError
  | .request _ _ => []
  | .sweep _ errors => errors

theorem Verdict.kept_subset (verdict : Verdict) : verdict.kept ⊆ verdict.errors := by
  cases verdict with
  | request => exact List.nil_subset _
  | sweep => exact List.Subset.refl _

/-- `direct` are the errors of a sweep in its order, `strays` those kept for the end; the last error reports the
undeclared names, unless the request itself ends in it. -/
structure Answer.MadeUp (answer : Answer) (failures : List TargetFailure)
    (direct strays unknown : List LoadError) : Prop where
  ordered : answer.errors =
    direct ++ (LoadError.further failures (answer.primary ++ direct)).map .loadFailed ++ strays ++ unknown
  single : unknown.length ≤ 1
  undeclared : ∀ error ∈ unknown, error.IsUnknown
  either : (∃ error ∈ answer.primary, error.IsUnknown) → unknown = []

theorem Loader.giveUpUnresolved_isUnknown (loader : Loader) :
    ∀ error ∈ loader.giveUpUnresolved.2, error.IsUnknown := by
  unfold giveUpUnresolved
  split
  · rintro error ⟨⟩
  · rintro error ⟨⟩
    trivial

namespace Machine

variable {loader : Loader} {failures : List TargetFailure} {strays : List LoadError}
  {unknown : Option LoadError}

theorem madeUp_of_sweep (plain : ∀ error ∈ strays, error.failure? = none)
    (undeclared : ∀ error ∈ unknown, error.IsUnknown) (before : Nat) (direct : List LoadError) :
    (verdictAnswer loader (failures.map .loadFailed ++ strays) unknown (.sweep before direct)).MadeUp
      failures direct strays unknown.toList where
  ordered := by
    simp only [verdictAnswer, Answer.errors, Answer.primary, LoadError.unreported_append _ _ _ plain,
      List.nil_append, List.append_assoc]
  single := by cases unknown <;> simp
  undeclared error member := undeclared error (Option.mem_toList.mp member)
  either := by simp [verdictAnswer, Answer.primary]

theorem madeUp_of_ok (undeclared : ∀ error ∈ unknown, error.IsUnknown) (outcome : Outcome) :
    (Answer.requested (.ok outcome) (failures.map .loadFailed ++ strays ++ unknown.toList)).MadeUp
      failures [] strays unknown.toList where
  ordered := by
    have all : LoadError.further failures [] = failures := LoadError.further_of_plain _ _ rfl
    simp [Answer.errors, Answer.primary, errorOf, all]
  single := by cases unknown <;> simp
  undeclared error member := undeclared error (Option.mem_toList.mp member)
  either := by simp [Answer.primary, errorOf]

theorem madeUp_of_error (plain : ∀ error ∈ strays, error.failure? = none)
    (undeclared : ∀ error ∈ unknown, error.IsUnknown) (error : LoadError) (known : ¬ error.IsUnknown) :
    (Answer.requested (.error error)
      (LoadError.unreported (failures.map .loadFailed ++ strays) [error] ++ unknown.toList)).MadeUp
        failures [] strays unknown.toList where
  ordered := by simp [Answer.errors, Answer.primary, errorOf, LoadError.unreported_append _ _ _ plain]
  single := by cases unknown <;> simp
  undeclared error member := undeclared error (Option.mem_toList.mp member)
  either := by simp [Answer.primary, errorOf, known]

theorem madeUp_of_unknown {error : LoadError} (undeclared : error.IsUnknown) :
    (Answer.requested (.error error) (failures.map .loadFailed ++ strays)).MadeUp failures [] strays [] where
  ordered := by
    have plain : error.failure? = none := by cases error <;> first | rfl | cases undeclared
    have all : LoadError.further failures [error] = failures :=
      LoadError.further_of_plain _ _ (by simp [plain])
    simp [Answer.errors, Answer.primary, errorOf, all]
  single := by simp
  undeclared := by simp
  either _ := rfl

theorem madeUp_of_request (plain : ∀ error ∈ strays, error.failure? = none)
    (undeclared : ∀ error ∈ unknown, error.IsUnknown) (name : String) (result : Except LoadError Outcome)
    (known : ∀ error ∈ errorOf result, ¬ error.IsUnknown) :
    ∃ rest, (verdictAnswer loader (failures.map .loadFailed ++ strays) unknown
      (.request name result)).MadeUp failures [] strays rest := by
  cases result with
  | error error => exact ⟨_, madeUp_of_error plain undeclared error (known error (by simp [errorOf]))⟩
  | ok outcome =>
      cases outcome with
      | loaded | alreadyLoaded => exact ⟨_, madeUp_of_ok undeclared _⟩
      | deferred =>
          unfold verdictAnswer
          by_cases loaded : loader.status name = .loaded
          · simp only [loaded, if_true]
            exact ⟨_, madeUp_of_ok undeclared _⟩
          simp only [loaded, if_false]
          cases unknown with
          | none =>
              refine ⟨[], ?_⟩
              have madeUp : (Answer.requested (.ok .deferred)
                  (failures.map .loadFailed ++ strays ++ Option.toList none)).MadeUp failures [] strays [] :=
                madeUp_of_ok undeclared .deferred
              rwa [Option.toList_none, List.append_nil] at madeUp
          | some error =>
              by_cases told : error.involves name = true
              · simp only [told, if_true]
                exact ⟨_, madeUp_of_unknown (undeclared error rfl)⟩
              · simp only [told]
                exact ⟨_, madeUp_of_ok undeclared _⟩

theorem madeUp_verdictAnswer (plain : ∀ error ∈ strays, error.failure? = none)
    (undeclared : ∀ error ∈ unknown, error.IsUnknown) (verdict : Verdict)
    (known : ∀ error ∈ verdict.errors, ¬ error.IsUnknown) :
    ∃ rest, (verdictAnswer loader (failures.map .loadFailed ++ strays) unknown verdict).MadeUp
      failures verdict.kept strays rest := by
  cases verdict with
  | request name result => exact madeUp_of_request plain undeclared name result known
  | sweep before errors => exact ⟨_, madeUp_of_sweep plain undeclared before errors⟩

theorem returned_verdictAnswer {errors : List LoadError}
    (undeclared : ∀ error ∈ unknown, error.IsUnknown) (verdict : Verdict) :
    (((verdictAnswer loader errors unknown verdict).primary ++ verdict.kept).filterMap
      LoadError.failure?).Sublist (verdict.errors.filterMap LoadError.failure?) := by
  cases verdict with
  | sweep before errors => exact List.Sublist.refl _
  | request name result =>
      obtain ⟨final, reported, answered, settles⟩ :=
        verdictAnswer_request loader errors unknown name result
      rw [answered, Verdict.kept, List.append_nil, Answer.primary, Verdict.errors]
      cases settles with
      | failed | answered | loaded | forgotten => exact List.Sublist.refl _
      | givenUp error waits given =>
          have told := undeclared error given
          cases error <;> first | exact List.Sublist.refl _ | cases told

theorem Concludes.direct_eq {machine : Machine} {verdict : Verdict}
    (concludes : machine.Concludes verdict) (stacked : machine.Stacked) :
    machine.direct = verdict.errors := by
  rw [direct, concludes.frames stacked, concludes.control]
  rfl

end Machine

/-- The report of a pass that is done at `last`. `failures` are the targets that failed during the pass, and
`direct` the errors that an outermost sweep got for the names it requested. -/
structure Pass.Reported (pass : Pass) (last : Nat) (failures : List TargetFailure)
    (direct unknown : List LoadError) : Prop where
  told : (pass.loader.perform pass.action).1.targetFailures = pass.loader.targetFailures ++ failures
  failed : ∀ name, (pass.loader.perform pass.action).1.isFailed name = true ↔
    pass.loader.isFailed name = true ∨ name ∈ failures.map TargetFailure.library
  fresh : ∀ failure ∈ failures, pass.loader.isFailed failure.library = false
  distinct : (failures.map TargetFailure.library).Nodup
  once : (((pass.loader.perform pass.action).2.primary ++
    (pass.loader.perform pass.action).2.errors).filterMap LoadError.failure?).Perm failures
  madeUp : (pass.loader.perform pass.action).2.MadeUp failures direct (pass.collect Machine.stray? last) unknown
  known : ∀ error ∈ direct ++ pass.collect Machine.stray? last, ¬ error.IsUnknown
  alone : ∀ name strict, pass.action = .request name strict → direct = []
  swept : ∀ stem strict, pass.action = .requestAll stem strict →
    pass.collect Machine.asked? last =
      pass.loader.registry.names.filter (fun name => stem.toList <+: name.toList) ∧
    (pass.collect Machine.heard? last).length = (pass.collect Machine.asked? last).length ∧
    direct = (pass.collect Machine.heard? last).flatMap Machine.errorOf
  nested : ∀ deed ∈ (pass.loader.perform pass.action).1.deeds, deed.Alone

namespace Pass

theorem perm_of_madeUp {answer : Answer} {failures : List TargetFailure}
    {direct strays unknown returned : List LoadError}
    (madeUp : answer.MadeUp failures direct strays unknown)
    (plain : ∀ error ∈ strays, error.failure? = none)
    (distinct : (failures.map TargetFailure.library).Nodup)
    (returns : ((answer.primary ++ direct).filterMap LoadError.failure?).Sublist
      (returned.filterMap LoadError.failure?))
    (once : (returned.filterMap LoadError.failure?).Nodup)
    (recorded : ∀ failure ∈ returned.filterMap LoadError.failure?, failure ∈ failures) :
    ((answer.primary ++ answer.errors).filterMap LoadError.failure?).Perm failures := by
  have strays : strays.filterMap LoadError.failure? = [] := List.filterMap_eq_nil_iff.mpr plain
  have unknown : unknown.filterMap LoadError.failure? = [] := by
    refine List.filterMap_eq_nil_iff.mpr ?_
    intro error member
    have undeclared := madeUp.undeclared error member
    cases error <;> first | rfl | cases undeclared
  have perm := LoadError.perm_further failures (answer.primary ++ direct) distinct (once.sublist returns)
    fun failure member => recorded failure (returns.subset member)
  rw [madeUp.ordered]
  simp only [List.filterMap_append, LoadError.filterMap_loadFailed, strays, unknown, List.append_nil] at perm ⊢
  rwa [← List.append_assoc]

theorem swept_of_serves {pass : Pass} {moment : Nat} {verdict : Verdict}
    (concludes : (pass.state moment).Concludes verdict) (served : verdict.Serves pass.action)
    (stem : String) (strict : Bool) (sweeps : pass.action = .requestAll stem strict) :
    pass.Asks stem (moment + 1) [] 0 verdict.kept := by
  rw [sweeps] at served
  cases verdict with
  | request => obtain ⟨_, same⟩ := served; cases same
  | sweep before errors =>
      have idle := idle_of_holds concludes.holds
      have asks := (pass.sweeping strict sweeps moment (by simp [concludes.control])).verdict before errors
        concludes.holds
      exact asks.quiet idle.1 idle.2

theorem madeUp_of_concludes {pass : Pass} {moment : Nat} {verdict : Verdict}
    (accounted : Accounted pass moment) (concludes : (pass.state moment).Concludes verdict) :
    (((pass.loader.perform pass.action).2.primary ++ verdict.kept).filterMap LoadError.failure?).Sublist
        (verdict.errors.filterMap LoadError.failure?) ∧
      ∃ unknown, (pass.loader.perform pass.action).2.MadeUp (pass.state moment).loader.failures
        verdict.kept (pass.state moment).loader.orphaned unknown := by
  have answer : (pass.loader.perform pass.action).2 = Machine.verdictAnswer
      ((pass.state moment).conclude verdict).loader
      ((pass.state moment).loader.failures.map .loadFailed ++ (pass.state moment).loader.orphaned)
      (pass.state moment).loader.takeErrors.1.giveUpUnresolved.2 verdict :=
    congrArg Prod.snd (perform_of_concludes concludes)
  have undeclared := (pass.state moment).loader.takeErrors.1.giveUpUnresolved_isUnknown
  have known : ∀ error ∈ verdict.errors, ¬ error.IsUnknown :=
    concludes.direct_eq (pass.sound moment).stacked ▸ accounted.known
  rw [answer]
  constructor
  · exact Machine.returned_verdictAnswer undeclared verdict
  · exact Machine.madeUp_verdictAnswer (fun error member => (accounted.strays error member).1) undeclared
      verdict known

theorem perm_of_concludes {pass : Pass} {moment : Nat} {verdict : Verdict} (accounted : Accounted pass moment)
    (concludes : (pass.state moment).Concludes verdict) :
    (((pass.loader.perform pass.action).2.primary ++ (pass.loader.perform pass.action).2.errors).filterMap
      LoadError.failure?).Perm (pass.state moment).loader.failures := by
  have errors := concludes.direct_eq (pass.sound moment).stacked
  obtain ⟨returned, unknown, madeUp⟩ := madeUp_of_concludes accounted concludes
  exact perm_of_madeUp madeUp (fun error member => (accounted.strays error member).1) accounted.distinct
    returned (errors ▸ accounted.once) (errors ▸ accounted.recorded)

/-- Every target failure is reported to the outermost caller exactly once. The list has the errors of a sweep in
its order, the other failures in theirs, the errors of resumed requests, and the undeclared names. -/
theorem reported_of_done (pass : Pass) (requests : pass.action.Requests) :
    ∃ last failures direct unknown,
      (pass.state last).control = .done (pass.loader.perform pass.action).2 ∧
        pass.Reported last failures direct unknown := by
  obtain ⟨moment, verdict, concludes, served⟩ := pass.exists_concluded requests
  have accounted := pass.accounted requests moment (by simp [concludes.control])
  have errors := concludes.direct_eq (pass.sound moment).stacked
  have performed := perform_of_concludes concludes
  have after : (pass.loader.perform pass.action).1 = ((pass.state moment).conclude verdict).loader :=
    congrArg Prod.fst performed
  have unseen : (pass.state moment).stray? = none := by simp [Machine.stray?, concludes.control]
  have strays : pass.collect Machine.stray? (moment + 1) = (pass.state moment).loader.orphaned :=
    (collect_unseen Machine.stray? unseen).trans accounted.orphaned.symm
  obtain ⟨-, unknown, madeUp⟩ := madeUp_of_concludes accounted concludes
  refine ⟨moment + 1, (pass.state moment).loader.failures, verdict.kept, unknown, ?_, ?_⟩
  · rw [state_of_step concludes.step?_eq, performed]
    rfl
  constructor
  case told =>
    rw [after, Loader.targetFailures, Machine.deeds_conclude]
    exact accounted.told
  case failed =>
    intro name
    rw [after, Machine.isFailed_conclude]
    exact accounted.failed name
  case fresh => exact accounted.fresh
  case distinct => exact accounted.distinct
  case once => exact perm_of_concludes accounted concludes
  case madeUp =>
    rw [strays]
    exact madeUp
  case known =>
    intro error member
    rw [strays] at member
    rcases List.mem_append.mp member with kept | stray
    · exact accounted.known error (errors ▸ verdict.kept_subset kept)
    · exact (accounted.strays error stray).2
  case alone =>
    intro name strict asks
    rw [asks] at served
    cases verdict with
    | request => rfl
    | sweep => obtain ⟨_, _, same⟩ := served; cases same
  case swept =>
    intro stem strict sweeps
    obtain ⟨names, results, kept⟩ := swept_of_serves concludes served stem strict sweeps
    rw [List.append_nil, Machine.swept_eq] at names
    exact ⟨names.symm, results.symm, kept⟩
  case nested => exact (pass.reachable.perform pass.action).alone

theorem reported_of_done_forsaken : forsaken.action.Requests ∧
    ∃ last failures direct unknown,
      (forsaken.state last).control = .done (forsaken.loader.perform forsaken.action).2 ∧
        forsaken.Reported last failures direct unknown :=
  ⟨trivial, reported_of_done forsaken trivial⟩

end Pass

end DemandLoad
