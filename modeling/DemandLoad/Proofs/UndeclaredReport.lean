import DemandLoad.Proofs.BreadthFirstDrop
import DemandLoad.Proofs.ErrorReports
import DemandLoad.Proofs.FinalErrors
import DemandLoad.Proofs.UnresolvedNames
import Mathlib.Data.List.Nodup
import Mathlib.Logic.Relation

namespace DemandLoad

/-- The names that an error reports as undeclared, and those that waited behind them. -/
def LoadError.undeclared? : LoadError → Option (List String × List String)
  | unknown first others stalled => some (first :: others, stalled)
  | _ => none

theorem LoadError.undeclared?_of_known {error : LoadError} (known : ¬ error.IsUnknown) :
    error.undeclared? = none := by
  cases error with
  | unknown => exact absurd trivial known
  | _ => rfl

theorem LoadError.unreported_subset (errors reported : List LoadError) :
    unreported errors reported ⊆ errors :=
  fun _ member => (List.mem_filter.mp member).1

namespace Loader

variable {loader : Loader} {name blocker : String}

def stalled (loader : Loader) : List String :=
  (loader.tracker.drop loader.unresolved).2.map Waiter.library

theorem undeclared?_giveUpUnresolved (loader : Loader) :
    loader.giveUpUnresolved.2.toList.filterMap LoadError.undeclared? =
      if loader.unresolved = [] then [] else [(loader.unresolved, loader.stalled)] := by
  unfold giveUpUnresolved stalled
  split
  case h_1 none_left => simp [none_left]
  case h_2 first others some_left => simp [some_left, LoadError.undeclared?]

theorem mem_reported : name ∈ loader.unresolved ∨ name ∈ loader.stalled ↔
    Behind loader.tracker.queue loader.unresolved name := by
  rw [stalled, Tracker.mem_drop]
  constructor
  · rintro (root | ⟨behind, -⟩)
    · exact .root root
    · exact behind
  · intro behind
    by_cases root : name ∈ loader.unresolved
    · exact .inl root
    · exact .inr ⟨behind, root⟩

/-- Following first blockers leads to an undeclared name. -/
def Stranded (loader : Loader) (name : String) : Prop :=
  ∃ last, Relation.ReflTransGen loader.BlockedBy name last ∧ loader.registry.contains last = false

theorem Stranded.of_blocker (blocked : loader.BlockedBy name blocker) (stranded : loader.Stranded blocker) :
    loader.Stranded name := by
  obtain ⟨last, leads, undeclared⟩ := stranded
  exact ⟨last, .head blocked leads, undeclared⟩

theorem Founded.idle_of_undeclared (founded : loader.Founded)
    (undeclared : loader.registry.contains name = false) : loader.status name = .unloaded := by
  apply Classical.byContradiction
  intro begun
  cases undeclared.symm.trans (founded name begun).1

theorem Founded.idle_of_stranded (founded : loader.Founded) (stranded : loader.Stranded name) :
    loader.status name = .unloaded := by
  obtain ⟨last, leads, undeclared⟩ := stranded
  rcases leads.cases_head with rfl | ⟨blocker, blocked, -⟩
  · exact founded.idle_of_undeclared undeclared
  · exact founded.idle_of_blocker blocked

theorem Founded.not_doomed_of_stranded (founded : loader.Founded)
    (loading : ∀ name, loader.isFailed name = true → loader.status name = .loading)
    (stranded : loader.Stranded name) : ¬ loader.Doomed name := by
  intro doomed
  obtain ⟨last, leads, undeclared⟩ := stranded
  have stop : ∀ other, loader.isFailed other = true → loader.firstBlocker? other = none :=
    fun _ failed => founded.unblocked_of_stops loading (.inl failed)
  obtain ⟨members, member, closed⟩ := doomed.of_leads stop leads
  rcases closed last member with failed | ⟨blocker, -, blocked⟩
  · cases (founded.idle_of_undeclared undeclared).symm.trans (loading last failed)
  · cases undeclared.symm.trans (contains_of_blocked blocked)

end Loader

namespace Machine

/-- Where an outermost answer reports undeclared names: a deferred request ends in the report if it is involved,
and otherwise the report is the last error of the list. -/
inductive Places (loader : Loader) (errors : List LoadError) (unknown : Option LoadError) :
    Verdict → Answer → Prop
  | primary (name : String) (error : LoadError) (given : unknown = some error)
      (told : error.involves name = true) :
      Places loader errors unknown (.request name (.ok .deferred)) (.requested (.error error) errors)
  | last {verdict : Verdict} {answer : Answer} (others : List LoadError)
      (listed : answer.errors = others ++ unknown.toList) (within : others ⊆ verdict.errors ++ errors)
      (primary : answer.primary ⊆ verdict.errors)
      (apart : ∀ name, verdict = .request name (.ok .deferred) → loader.status name ≠ .loaded →
        ∀ error ∈ unknown, error.involves name = false) :
      Places loader errors unknown verdict answer

theorem places_verdictAnswer (loader : Loader) (errors : List LoadError) (unknown : Option LoadError)
    (verdict : Verdict) :
    Places loader errors unknown verdict (verdictAnswer loader errors unknown verdict) := by
  cases verdict with
  | sweep before direct =>
      refine .last (direct ++ LoadError.unreported errors direct) rfl ?_ (List.nil_subset _) (by simp)
      exact List.append_subset.mpr ⟨List.subset_append_left _ _,
        List.Subset.trans (LoadError.unreported_subset _ _) (List.subset_append_right _ _)⟩
  | request name result =>
      cases result with
      | error error =>
          refine .last (LoadError.unreported errors [error]) rfl ?_ (List.Subset.refl _) (by simp)
          exact List.Subset.trans (LoadError.unreported_subset _ _) (List.subset_append_right _ _)
      | ok outcome =>
          cases outcome with
          | loaded | alreadyLoaded =>
              exact .last errors rfl (List.subset_append_right _ _) (List.Subset.refl _) (by simp)
          | deferred =>
              simp only [verdictAnswer]
              by_cases loaded : loader.status name = .loaded
              · rw [if_pos loaded]
                refine .last errors rfl (List.subset_append_right _ _) (List.Subset.refl _) ?_
                rintro _ ⟨⟩ waits
                exact absurd loaded waits
              rw [if_neg loaded]
              cases unknown with
              | none =>
                  refine .last errors (List.append_nil _).symm (List.subset_append_right _ _)
                    (List.Subset.refl _) ?_
                  rintro _ _ _ _ ⟨⟩
              | some error =>
                  by_cases told : error.involves name = true
                  · simp only [told, if_true]
                    exact .primary name error rfl told
                  · simp only [told]
                    refine .last errors rfl (List.subset_append_right _ _) (List.Subset.refl _) ?_
                    rintro _ ⟨⟩ _ _ ⟨⟩
                    exact Bool.eq_false_iff.mpr told

section Places

variable {loader : Loader} {errors : List LoadError} {unknown : Option LoadError} {verdict : Verdict}
  {answer : Answer}

theorem filterMap_plain {others more : List LoadError} (within : others ⊆ more)
    (plain : ∀ error ∈ more, error.undeclared? = none) : others.filterMap LoadError.undeclared? = [] :=
  List.filterMap_eq_nil_iff.mpr fun error member => plain error (within member)

theorem Places.told (places : Places loader errors unknown verdict answer)
    (plain : ∀ error ∈ verdict.errors ++ errors, error.undeclared? = none) :
    (answer.primary ++ answer.errors).filterMap LoadError.undeclared? =
      unknown.toList.filterMap LoadError.undeclared? := by
  cases places with
  | primary name error given told =>
      have rest : errors.filterMap LoadError.undeclared? = [] :=
        filterMap_plain (List.subset_append_right _ _) plain
      rw [given, List.filterMap_append, Answer.errors, rest, List.append_nil]
      rfl
  | last others listed within primary apart =>
      have own : answer.primary.filterMap LoadError.undeclared? = [] :=
        filterMap_plain (List.Subset.trans primary (List.subset_append_left _ _)) plain
      rw [listed, List.filterMap_append, List.filterMap_append, own, filterMap_plain within plain,
        List.nil_append, List.nil_append]

theorem exists_of_reported {report : List String × List String}
    (reported : unknown.toList.filterMap LoadError.undeclared? = [report]) :
    ∃ error, unknown = some error ∧ error.undeclared? = some report := by
  cases unknown with
  | none => cases reported
  | some error =>
      refine ⟨error, rfl, ?_⟩
      cases told : error.undeclared? with
      | none => simp [told] at reported
      | some other =>
          simp only [Option.toList_some, List.filterMap_cons, told, List.filterMap_nil, List.cons.injEq,
            and_true] at reported
          rw [reported]

theorem Places.getLast?_eq (places : Places loader errors unknown verdict answer)
    {report : List String × List String} (reported : unknown.toList.filterMap LoadError.undeclared? = [report])
    (apart : answer.primary.filterMap LoadError.undeclared? = []) :
    answer.errors.getLast?.bind LoadError.undeclared? = some report := by
  obtain ⟨error, given, told⟩ := exists_of_reported reported
  cases places with
  | primary name other same involved =>
      cases given.symm.trans same
      simp [Answer.primary, errorOf, told] at apart
  | last others listed within primary apart =>
      rw [listed, given, Option.toList_some, List.getLast?_append, List.getLast?_singleton, Option.some_or,
        Option.bind_some, told]

theorem Places.primary_iff {name : String} {result : Except LoadError Outcome}
    (places : Places loader errors unknown (.request name result) answer)
    (plain : ∀ error ∈ errorOf result, error.undeclared? = none)
    {report : List String × List String} (reported : unknown.toList.filterMap LoadError.undeclared? = [report])
    (waits : (∃ error, unknown = some error ∧ error.involves name = true) →
      result = .ok .deferred ∧ loader.status name ≠ .loaded) :
    answer.primary.filterMap LoadError.undeclared? = [report] ↔
      ∃ error, unknown = some error ∧ error.involves name = true := by
  obtain ⟨error, given, told⟩ := exists_of_reported reported
  cases places with
  | primary name other same involved =>
      cases given.symm.trans same
      exact iff_of_true (by simp [Answer.primary, errorOf, told]) ⟨error, given, involved⟩
  | last others listed within primary apart =>
      have own : answer.primary.filterMap LoadError.undeclared? = [] := filterMap_plain primary plain
      refine iff_of_false (by simp [own]) ?_
      rintro ⟨other, same, involved⟩
      obtain ⟨rfl, unloaded⟩ := waits ⟨other, same, involved⟩
      cases involved.symm.trans (apart name rfl unloaded other same)

end Places

variable {machine : Machine} {verdict : Verdict} {name : String}

theorem undeclared_conclude (machine : Machine) (verdict : Verdict) (names : List String) :
    (machine.conclude verdict).loader.undeclared names = machine.loader.undeclared names := by
  rw [Loader.undeclared, Loader.undeclared, registry_conclude]

theorem stranded_conclude (machine : Machine) (verdict : Verdict) (name : String) :
    (machine.conclude verdict).loader.Stranded name ↔ machine.loader.Stranded name := by
  have blocked : (machine.conclude verdict).loader.BlockedBy = machine.loader.BlockedBy := by
    funext other blocker
    rw [Loader.BlockedBy, Loader.BlockedBy, firstBlocker?_conclude]
  rw [Loader.Stranded, Loader.Stranded, blocked, registry_conclude]

theorem Concludes.undeclared_eq (concludes : machine.Concludes verdict) :
    machine.loader.undeclared machine.loader.unresolved = machine.loader.unresolved := by
  apply List.filter_eq_self.mpr
  intro name member
  have undue := List.filter_eq_nil_iff.mp concludes.settled name member
  simpa using undue

end Machine

namespace Pass

variable {pass : Pass} {moment : Nat} {verdict : Verdict} {name : String}

theorem DeclaresOnce.unresolved_eq (once : pass.DeclaresOnce) (founded : pass.loader.Founded)
    (concludes : (pass.state moment).Concludes verdict) :
    (pass.state moment).loader.unresolved =
      (pass.state moment).loader.undeclared (pass.asked moment).eraseDups := by
  rw [← concludes.undeclared_eq, once.undeclared_eq founded moment (by simp [concludes.control])]

theorem DeclaresOnce.mem_unresolved (once : pass.DeclaresOnce) (founded : pass.loader.Founded)
    (concludes : (pass.state moment).Concludes verdict) :
    name ∈ (pass.state moment).loader.unresolved ↔
      name ∈ pass.asked moment ∧ (pass.state moment).loader.registry.contains name = false := by
  rw [once.unresolved_eq founded concludes, Loader.mem_undeclared, List.mem_eraseDups]

theorem DeclaresOnce.behind_iff (once : pass.DeclaresOnce) (founded : pass.loader.Founded)
    (concludes : (pass.state moment).Concludes verdict) :
    Behind (pass.state moment).loader.tracker.queue (pass.state moment).loader.unresolved name ↔
      name ∈ pass.asked moment ∧ (pass.state moment).loader.Stranded name := by
  have orderly := once.orderly founded moment
  have grounds := once.founded founded moment
  have sound := pass.sound moment
  constructor
  · -- The queues follow the first blockers, so the way along them ends where the waiting ends.
    intro behind
    constructor
    · cases behind with
      | root member => exact ((once.mem_unresolved founded concludes).mp member).1
      | waits queued _ => exact asked_of_queued queued
    · refine behind.closed ?_ ?_
      · intro root member
        exact ⟨root, .refl, ((once.mem_unresolved founded concludes).mp member).2⟩
      · intro blocker waiter queued stranded
        rcases orderly.queues blocker waiter queued with rfl | blocked
        · exact stranded
        · exact .of_blocker blocked stranded
  · -- What has been asked for is loaded, doomed or still pending, and the first two are not stranded.
    rintro ⟨asked, stranded⟩
    obtain ⟨first, early, driven⟩ := mem_asked.mp asked
    have settled := once.covered founded driven (Nat.le_of_lt early) (by simp [concludes.control])
    rcases settled with loaded | doomed | pending
    · cases loaded.symm.trans (grounds.idle_of_stranded stranded)
    · exact absurd doomed (grounds.not_doomed_of_stranded sound.active.loading_of_failed stranded)
    · rwa [Machine.Pending, concludes.roots sound.stacked] at pending

theorem DeclaresOnce.mem_stalled (once : pass.DeclaresOnce) (founded : pass.loader.Founded)
    (concludes : (pass.state moment).Concludes verdict) :
    name ∈ (pass.state moment).loader.stalled ↔ name ∈ pass.asked moment ∧
      (pass.state moment).loader.registry.contains name = true ∧ (pass.state moment).loader.Stranded name := by
  rw [Loader.stalled, Tracker.mem_drop, once.behind_iff founded concludes, once.mem_unresolved founded concludes]
  constructor
  · rintro ⟨⟨asked, stranded⟩, resolved⟩
    refine ⟨asked, ?_, stranded⟩
    apply Classical.byContradiction
    intro unknown
    exact resolved ⟨asked, Bool.eq_false_iff.mpr unknown⟩
  · rintro ⟨asked, known, stranded⟩
    refine ⟨⟨asked, stranded⟩, ?_⟩
    rintro ⟨-, unknown⟩
    cases known.symm.trans unknown

theorem DeclaresOnce.deferred_of_stranded (once : pass.DeclaresOnce) (founded : pass.loader.Founded)
    {result : Except LoadError Outcome} (concludes : (pass.state moment).Concludes (.request name result))
    (stranded : (pass.state moment).loader.Stranded name) : result = .ok .deferred := by
  have grounds := once.founded founded moment
  cases result with
  | error error =>
      have doomed := once.doomed_of_holds founded concludes.holds
      have loading := (pass.sound moment).active.loading_of_failed
      exact absurd doomed (grounds.not_doomed_of_stranded loading stranded)
  | ok outcome =>
      rcases pending_or_dropped outcome moment concludes.holds with loaded | ⟨rfl, -⟩
      · cases loaded.symm.trans (grounds.idle_of_stranded stranded)
      · rfl

theorem Accounted.plain (accounted : Accounted pass moment)
    (concludes : (pass.state moment).Concludes verdict) :
    ∀ error ∈ verdict.errors ++ (pass.state moment).loader.takeErrors.2, error.undeclared? = none := by
  intro error member
  rcases List.mem_append.mp member with own | kept
  · rw [← concludes.direct_eq (pass.sound moment).stacked] at own
    exact LoadError.undeclared?_of_known (accounted.known error own)
  · rcases List.mem_append.mp kept with failure | stray
    · obtain ⟨_, _, rfl⟩ := List.mem_map.mp failure
      rfl
    · exact LoadError.undeclared?_of_known (accounted.strays error stray).2

/-- The undeclared names in the answer of a pass that is done at `last`. `missing` are those that were
requested, in the order of their first requests, and `stalled` the requests stranded by them. -/
structure Missed (pass : Pass) (last : Nat) (missing stalled : List String) : Prop where
  undeclared : missing = (pass.loader.perform pass.action).1.undeclared (pass.asked last).eraseDups
  stranded : ∀ name, name ∈ stalled ↔ name ∈ pass.asked last ∧
    (pass.loader.perform pass.action).1.registry.contains name = true ∧
    (pass.loader.perform pass.action).1.Stranded name
  distinct : (missing ++ stalled).Nodup
  idle : ∀ name ∈ missing ++ stalled, (pass.loader.perform pass.action).1.status name = .unloaded
  told : ((pass.loader.perform pass.action).2.primary ++
    (pass.loader.perform pass.action).2.errors).filterMap LoadError.undeclared? =
      if missing = [] then [] else [(missing, stalled)]
  primary : missing ≠ [] → ∀ name strict, pass.action = .request name strict →
    ((pass.loader.perform pass.action).2.primary.filterMap LoadError.undeclared? = [(missing, stalled)] ↔
      name ∈ missing ∨ name ∈ stalled)
  last : missing ≠ [] → (pass.loader.perform pass.action).2.primary.filterMap LoadError.undeclared? = [] →
    (pass.loader.perform pass.action).2.errors.getLast?.bind LoadError.undeclared? = some (missing, stalled)

theorem distinct_of_concludes (once : pass.DeclaresOnce) (founded : pass.loader.Founded)
    (concludes : (pass.state moment).Concludes verdict) :
    ((pass.state moment).loader.unresolved ++ (pass.state moment).loader.stalled).Nodup := by
  refine List.nodup_append.mpr ⟨?_, (Tracker.breadthFirst_drop _ _).nodup, ?_⟩
  · rw [once.unresolved_eq founded concludes]
    exact (nodup_eraseDups _).filter _
  · rintro name root _ stalled rfl
    exact ((Tracker.mem_drop ..).mp stalled).2 root

theorem missed_of_concludes (before : pass.loader.WriteOnce) (once : pass.DeclaresOnce)
    (requests : pass.action.Requests) (concludes : (pass.state moment).Concludes verdict)
    (served : verdict.Serves pass.action) :
    pass.Missed (moment + 1) (pass.state moment).loader.unresolved (pass.state moment).loader.stalled := by
  have founded := before.founded
  have grounds := once.founded founded moment
  have plain := (pass.accounted requests moment (by simp [concludes.control])).plain concludes
  have performed := perform_of_concludes concludes
  have after : (pass.loader.perform pass.action).1 = ((pass.state moment).conclude verdict).loader :=
    congrArg Prod.fst performed
  have places := Machine.places_verdictAnswer ((pass.state moment).conclude verdict).loader
    (pass.state moment).loader.takeErrors.2 (pass.state moment).loader.takeErrors.1.giveUpUnresolved.2 verdict
  have answer : (pass.loader.perform pass.action).2 = Machine.verdictAnswer
      ((pass.state moment).conclude verdict).loader (pass.state moment).loader.takeErrors.2
      (pass.state moment).loader.takeErrors.1.giveUpUnresolved.2 verdict := congrArg Prod.snd performed
  rw [← answer] at places
  have asked : pass.asked (moment + 1) = pass.asked moment :=
    collect_unseen _ (by simp [Machine.driven?, concludes.control])
  have report := (pass.state moment).loader.takeErrors.1.undeclared?_giveUpUnresolved
  have involved := (pass.state moment).loader.takeErrors.1.involves_giveUpUnresolved
  generalize (pass.state moment).loader.takeErrors.1.giveUpUnresolved.2 = unknown at places report involved
  constructor
  case undeclared =>
    rw [after, Machine.undeclared_conclude, asked, once.unresolved_eq founded concludes]
  case stranded =>
    intro name
    rw [after, Machine.registry_conclude, Machine.stranded_conclude, asked, once.mem_stalled founded concludes]
  case distinct => exact distinct_of_concludes once founded concludes
  case idle =>
    intro name member
    have behind := Loader.mem_reported.mp (List.mem_append.mp member)
    rw [after, Machine.status_conclude]
    exact grounds.idle_of_stranded ((once.behind_iff founded concludes).mp behind).2
  case told => rw [places.told plain, report]; rfl
  case primary =>
    intro some_left name strict asks
    obtain ⟨result, rfl⟩ := (asks ▸ served).exists_result
    have behind : (∃ error, unknown = some error ∧ error.involves name = true) ↔
        name ∈ (pass.state moment).loader.unresolved ∨ name ∈ (pass.state moment).loader.stalled :=
      (involved name).trans Loader.mem_reported.symm
    rw [← behind]
    refine places.primary_iff (fun error own => plain error (List.mem_append_left _ own))
      (report.trans (if_neg some_left)) ?_
    intro waits
    have stranded := ((once.behind_iff founded concludes).mp ((involved name).mp waits)).2
    refine ⟨once.deferred_of_stranded founded concludes stranded, ?_⟩
    rw [Machine.status_conclude, grounds.idle_of_stranded stranded]
    simp
  case last =>
    intro some_left apart
    exact places.getLast?_eq (report.trans (if_neg some_left)) apart

/-- The report of undeclared names is exact: it is made exactly if some requested name is undeclared at the end,
and lists all of these and all that is stranded by them. -/
theorem missed_of_done (pass : Pass) (before : pass.loader.WriteOnce) (once : pass.DeclaresOnce)
    (requests : pass.action.Requests) : ∃ last missing stalled,
      (pass.state last).control = .done (pass.loader.perform pass.action).2 ∧
        pass.Missed last missing stalled := by
  obtain ⟨moment, verdict, concludes, served⟩ := pass.exists_concluded requests
  refine ⟨moment + 1, _, _, ?_, missed_of_concludes before once requests concludes served⟩
  rw [state_of_step concludes.step?_eq, perform_of_concludes concludes]
  rfl

/-- The target of `host` requests `late` before it declares it, and `late` needs an undeclared name. -/
def lost : Pass where
  loader := ((Loader.create ⟨false⟩ false).performAll [
    .register "host" [] (.program [.request "late" false, .request "gone" false, .register "late" ["lost"] .noop]),
    .register "app" ["host", "late"] .noop]).1
  reachable := (Loader.Reachable.create ..).performAll _
  action := .request "app" false

theorem missed_of_done_lost : lost.loader.WriteOnce ∧ lost.DeclaresOnce ∧ lost.action.Requests ∧
    (lost.loader.perform lost.action).2 =
      .requested (.error (.unknown "gone" ["lost"] ["late", "app"])) [] ∧
    ∃ last, (lost.state last).control = .done (lost.loader.perform lost.action).2 ∧
      lost.Missed last ["gone", "lost"] ["late", "app"] := by
  have before : lost.loader.WriteOnce := by
    have host := (Loader.WriteOnce.create ⟨false⟩ false).register "host" [] (.program [.request "late" false,
      .request "gone" false, .register "late" ["lost"] .noop]) rfl
    exact host.register "app" ["host", "late"] .noop (by cbv)
  have once : lost.DeclaresOnce := by
    refine .of_rest 22 (by cbv) ?_ (by cbv)
    rintro name dependencies target ⟨⟩
  have answer : (lost.loader.perform lost.action).2 =
      .requested (.error (.unknown "gone" ["lost"] ["late", "app"])) [] := by cbv
  obtain ⟨last, missing, stalled, done, missed⟩ := missed_of_done lost before once trivial
  have told := missed.told
  rw [answer] at told
  split at told
  · cases told
  · cases told
    exact ⟨before, once, trivial, answer, last, done, missed⟩

end Pass

end DemandLoad
