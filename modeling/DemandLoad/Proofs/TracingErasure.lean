import DemandLoad.Proofs.LockstepSimulation
import DemandLoad.Proofs.StepEvents
import DemandLoad.Proofs.UndeclaringPasses
import Mathlib.Data.List.Basic

namespace DemandLoad

/-- Whether the answer shows the configuration or the observer. -/
def Query.showsOutlets : Query → Bool
  | .inspect .config | .inspect .loader => true
  | .status _ | .loaded | .waiting | .queued _ | .names | .lookup _ | .graph | .writeGraph _
  | .inspect .registry | .inspect (.library _) | .inspect .tracker => false

mutual

/-- The queries that a target may make, including those of the targets it declares. -/
def Target.queries : Target → List Query
  | .noop => []
  | .program actions => Target.queriesOf actions

def Target.queriesOf : List Action → List Query
  | [] => []
  | action :: actions => Action.queries action ++ Target.queriesOf actions

def Action.queries : Action → List Query
  | .register _ _ target => Target.queries target
  | .query asked => [asked]
  | .request _ _ | .requestAll _ _ | .fail _ => []

end

/-- No query of the action, or of a target it declares, shows the configuration or the observer. -/
def Action.Blind (action : Action) : Prop := ∀ query ∈ action.queries, query.showsOutlets = false

theorem Target.mem_queriesOf {actions : List Action} {action : Action} {query : Query} (member : action ∈ actions)
    (asks : query ∈ action.queries) : query ∈ Target.queriesOf actions := by
  induction actions with
  | nil => cases member
  | cons first actions ih =>
      rw [Target.queriesOf, List.mem_append]
      rcases List.mem_cons.mp member with rfl | later
      · exact .inl asks
      · exact .inr (ih later)

theorem Action.hereditary_blind : Hereditary Action.Blind := by
  intro action blind
  cases action with
  | register name dependencies target =>
      intro inner member query asks
      cases target with
      | noop => cases member
      | program actions =>
          refine blind query ?_
          rw [Action.queries, Target.queries]
          exact Target.mem_queriesOf member asks
  | request | requestAll | fail | query => trivial

/-- The event, if a loader with this configuration and observer has it in its journal. -/
def Event.heard (config : Config) (observed : Bool) : Event → Option Event
  | .logged (.announced transition) => if config.traced then some (.logged (.announced transition)) else none
  | .observed transition => if config.traced && observed then some (.observed transition) else none
  | event => some event

/-- The event, if it does not tell a transition. -/
def Event.untold : Event → Option Event
  | .logged (.announced _) | .observed _ => none
  | event => some event

theorem Event.heard_of_untraced {config : Config} (untraced : config.traced = false) (observed : Bool) :
    Event.heard config observed = Event.untold := by
  funext event
  cases event with
  | logged entry => cases entry <;> simp [heard, untold, untraced]
  | observed | started | performed => simp [heard, untold, untraced]

theorem Event.heard_again {config : Config} {observed : Bool} {event kept : Event}
    (hears : event.heard config observed = some kept) : kept = event := by
  unfold heard at hears
  split at hears
  · split at hears <;> cases hears
    rfl
  · split at hears <;> cases hears
    rfl
  · cases hears
    rfl

def StepReport.seen (see : Event → Option Event) (report : StepReport) : StepReport :=
  { report with events := report.events.filterMap see }

def SessionReport.seen (see : Event → Option Event) (report : SessionReport) : SessionReport :=
  { report with steps := report.steps.map (StepReport.seen see) }

namespace Loader

variable {config : Config} {observed : Bool} {loader before after : Loader} {query : Query}

/-- The loader with another configuration and observer, and the journal it would have with them. -/
def rewired (config : Config) (observed : Bool) (loader : Loader) : Loader :=
  { loader with config, observed, journal := loader.sights (Event.heard config observed) }

def Traced (loader : Loader) : Prop := loader.config.traced = true ∧ loader.observed = true

theorem answer_of_blind {one other : Loader} (registry : other.registry = one.registry)
    (tracker : other.tracker = one.tracker) (blind : query.showsOutlets = false) :
    other.answer query = one.answer query := by
  obtain ⟨_, _, _, _, _, _, _, _⟩ := one
  obtain ⟨_, _, _, _, _, _, _, _⟩ := other
  cases registry
  cases tracker
  cases query with
  | inspect subject =>
      cases subject with
      | config | loader => cases blind
      | registry | library | tracker => rfl
  | status | loaded | waiting | queued | names | lookup | graph | writeGraph => rfl

def Discreet (loader : Loader) : Prop :=
  ∀ outlet, loader.hears outlet = false → ∀ mark ∈ loader.marks outlet, mark.isAct = true

theorem Discreet.adds (discreet : before.Discreet)
    (adds : ∀ outlet, ∃ news, before.Adds outlet after news) : after.Discreet := by
  intro outlet deaf mark member
  obtain ⟨news, more⟩ := adds outlet
  rw [more.hears_eq] at deaf
  rw [more.marks, List.mem_append] at member
  rcases member with old | new
  · exact discreet outlet deaf mark old
  · rw [heard, deaf] at new
    exact (List.mem_filter.mp new).2

theorem Discreet.always {pass : Pass} (discreet : pass.loader.Discreet) (moment : Nat) :
    (pass.state moment).loader.Discreet := by
  induction moment with
  | zero =>
      refine discreet.adds fun outlet => ⟨[], ?_⟩
      obtain ⟨loader, reachable, action⟩ := pass
      cases action with
      | register name dependencies target => exact loader.adds_declare name dependencies target
      | request | requestAll | fail | query => exact .refl loader
  | succ moment ih =>
      rcases pass.state_cases moment with same | step
      · rwa [same]
      · refine ih.adds fun outlet => ?_
        obtain ⟨news, adds, -⟩ := step.publishes (pass.sound moment).active outlet
        exact ⟨news, adds⟩

theorem Reachable.discreet (reachable : loader.Reachable) : loader.Discreet :=
  reachable.of_passes nofun fun _ => Discreet.always

theorem Discreet.sights_eq (discreet : loader.Discreet) :
    loader.sights (Event.heard loader.config loader.observed) = loader.journal := by
  have kept : ∀ event ∈ loader.journal, event.heard loader.config loader.observed = some event := by
    intro event member
    have marked : ∀ outlet mark, event.mark? outlet = some mark → mark ∈ loader.marks outlet :=
      fun outlet mark shows => List.mem_filterMap.mpr ⟨event, member, shows⟩
    cases event with
    | started | performed => rfl
    | observed transition =>
        cases hears : loader.config.traced && loader.observed with
        | true => simp only [Event.heard, hears, if_true]
        | false => cases discreet .observer hears _ (marked .observer _ rfl)
    | logged entry =>
        cases entry with
        | announced transition =>
            cases hears : loader.config.traced with
            | true => simp only [Event.heard, hears, if_true]
            | false => cases discreet .log hears _ (marked .log _ rfl)
        | redeclaredLoading | redeclaredLoaded | targetMissing | targetFailed | neverDeclared => rfl
  rw [sights, List.filterMap_congr kept, List.filterMap_some]

section Rewired

theorem Traced.abreast (traced : loader.Traced) (config : Config) (observed : Bool) :
    loader.Abreast (Event.heard config observed) True [] [] (loader.rewired config observed) where
  names := rfl
  records _ _ := rfl
  tracker := .refl _
  tables _ := rfl
  unresolved := rfl
  failures := rfl
  orphaned := rfl
  announces transition := by
    have all : loader.announcement transition = [.logged (.announced transition), .observed transition] := by
      rw [announcement, traced.1, traced.2]
      rfl
    rw [all]
    cases told : config.traced <;> cases observed <;> simp [announcement, rewired, Event.heard, told]
  declares := .inl rfl
  seen := by
    refine ⟨loader.sights (Event.heard config observed), rfl, ?_⟩
    have again : ∀ event : Event,
        (event.heard config observed).bind (Event.heard config observed) = event.heard config observed := by
      intro event
      cases hears : event.heard config observed with
      | none => rfl
      | some kept =>
          cases Event.heard_again hears
          exact hears
    rw [sights, rewired, sights, List.filterMap_filterMap, funext again]
    rfl

theorem Abreast.registry_eq {past further : List Event}
    (abreast : before.Abreast (Event.heard config observed) True past further after) :
    after.registry = before.registry := by
  rcases abreast.declares with same | unseen
  · exact same
  · cases unseen (.redeclaredLoading "" [] []) trivial

theorem Abreast.eq_rewired (abreast : before.Abreast (Event.heard config observed) True [] [] after)
    (discreet : after.Discreet) (same : (loader.rewired config observed).SameOutlets after) :
    after = before.rewired config observed := by
  have registry := abreast.registry_eq
  obtain ⟨news, first, second⟩ := abreast.seen
  have heard := discreet.sights_eq
  rw [same.config, same.observed] at heard
  have journal : after.journal = before.sights (Event.heard config observed) :=
    heard.symm.trans (second.trans first.symm)
  have told := same.config
  have watched := same.observed
  have tracker := abreast.tables trivial
  have unresolved := abreast.unresolved
  have failures := abreast.failures
  have orphaned := abreast.orphaned
  obtain ⟨_, _, _, _, _, _, _, _⟩ := after
  cases registry
  cases tracker
  cases told
  cases watched
  cases unresolved
  cases failures
  cases orphaned
  cases journal
  rfl

theorem reportStep_rewired (grows : before.Grows after) (answer : Answer) :
    (before.rewired config observed).reportStep (after.rewired config observed) answer =
      (before.reportStep after answer).seen (Event.heard config observed) := by
  have events : (before.rewired config observed).since (after.rewired config observed) =
      (before.since after).filterMap (Event.heard config observed) := by
    rw [since, rewired, rewired, grows.sights_eq]
    exact List.drop_left
  exact congrArg (fun events => StepReport.mk answer events _ _ _) events

end Rewired

end Loader

namespace Pass

variable {config : Config} {observed : Bool} {one other : Pass}

theorem asksAlike_of_blind (blind : ∀ moment, (one.state moment).Confined Action.Blind)
    (footing ground : Footing Event) :
    AsksAlike (Event.heard config observed) True footing ground one other := by
  intro moment later abreast library query rest control
  have performs : (one.state moment).Performs library (.query query :: rest) := .inl (by rw [control]; rfl)
  have allowed := (blind moment).programs library _ performs _ (List.mem_cons_self ..)
  have unseen := allowed query (List.mem_singleton.mpr rfl)
  rw [Loader.answer_of_blind abreast.loaders.registry_eq (abreast.loaders.tables trivial) unseen]

end Pass

namespace Loader

variable {config : Config} {observed : Bool} {loader : Loader}

theorem Traced.perform (traced : loader.Traced) (reachable : loader.Reachable)
    (reachable_too : (loader.rewired config observed).Reachable) (confined : loader.Confined Action.Blind)
    {action : Action} (blind : action.Blind) :
    (loader.rewired config observed).perform action =
      ((loader.perform action).1.rewired config observed, (loader.perform action).2) := by
  let one : Pass := ⟨loader, reachable, action⟩
  let other : Pass := ⟨loader.rewired config observed, reachable_too, action⟩
  have asks : Pass.AsksAlike (Event.heard config observed) True ⟨[], []⟩ ⟨[], []⟩ one other :=
    Pass.asksAlike_of_blind
      (fun moment => one.confined (Action.hereditary_blind action blind) confined Action.hereditary_blind moment) _ _
  have start : (one.state 0).Abreast (Event.heard config observed) True ⟨[], []⟩ ⟨[], []⟩ (other.state 0) := by
    refine .start (traced.abreast config observed) action ?_
    rintro query rfl
    exact answer_of_blind rfl rfl (blind query (List.mem_singleton.mpr rfl))
  obtain ⟨abreast, answers⟩ := Pass.abreast_perform asks start
  have same := abreast.eq_rewired (reachable_too.perform action).discreet (reachable_too.grows action).toSameOutlets
  exact Prod.ext same answers

theorem Traced.performAll (traced : loader.Traced) (reachable : loader.Reachable)
    (reachable_too : (loader.rewired config observed).Reachable) (confined : loader.Confined Action.Blind)
    (actions : List Action) (blind : ∀ action ∈ actions, action.Blind) :
    (loader.rewired config observed).performAll actions =
      ((loader.performAll actions).1.rewired config observed,
        (loader.performAll actions).2.map (StepReport.seen (Event.heard config observed))) := by
  induction actions generalizing loader with
  | nil => rfl
  | cons action actions ih =>
      have own := blind action (List.mem_cons_self ..)
      have grows := reachable.grows action
      have performed := traced.perform reachable reachable_too confined own
      have still : (loader.perform action).1.Traced :=
        ⟨(congrArg Config.traced grows.config).trans traced.1, grows.observed.trans traced.2⟩
      have next := reachable_too.perform action
      rw [performed] at next
      have others := ih still (reachable.perform action) next
        (confined.perform Action.hereditary_blind reachable (Action.hereditary_blind action own))
        fun other member => blind other (List.mem_cons_of_mem _ member)
      simp only [Loader.performAll, performed, others, List.map_cons, reportStep_rewired grows]

end Loader

/-- The configuration and the observer change nothing about a session but the announced transitions. -/
theorem Session.run_rewired (actions : List Action) (blind : ∀ action ∈ actions, action.Blind) (config : Config)
    (observed : Bool) :
    ((Loader.create config observed).performAll actions).1 =
        ((Loader.create ⟨true⟩ true).performAll actions).1.rewired config observed ∧
      Session.run config observed actions =
        (Session.run ⟨true⟩ true actions).seen (Event.heard config observed) ∧
      (config.traced = false →
        Session.run config observed actions = (Session.run ⟨true⟩ true actions).seen Event.untold) := by
  have all : (Loader.create config observed).performAll actions =
      (((Loader.create ⟨true⟩ true).performAll actions).1.rewired config observed,
        ((Loader.create ⟨true⟩ true).performAll actions).2.map (StepReport.seen (Event.heard config observed))) :=
    Loader.Traced.performAll ⟨rfl, rfl⟩ (.create ⟨true⟩ true) (.create config observed) nofun actions blind
  have reported : Session.run config observed actions =
      (Session.run ⟨true⟩ true actions).seen (Event.heard config observed) := by
    simp only [Session.run, all, SessionReport.seen]
    rfl
  refine ⟨congrArg Prod.fst all, reported, fun untraced => ?_⟩
  rw [reported, Event.heard_of_untraced untraced]

/-- The target of `a` requests an undeclared name, and queries the status of its dependency. -/
def overheard : List Action := [
  .register "a" ["b"] (.program [.query (.status "b"), .request "ghost" false]), .register "b" [] .noop,
  .request "a" false]

theorem Session.run_rewired_overheard : (∀ action ∈ overheard, action.Blind) ∧
    Session.run ⟨false⟩ true overheard = (Session.run ⟨true⟩ true overheard).seen Event.untold ∧
    (Session.run ⟨true⟩ true overheard).steps.map (·.events.length) = [0, 0, 18] ∧
    (Session.run ⟨false⟩ true overheard).steps.map (·.events.length) = [0, 0, 4] := by
  have blind : ∀ action ∈ overheard, action.Blind := by
    simp [overheard, Action.Blind, Action.queries, Target.queries, Target.queriesOf, Query.showsOutlets]
  exact ⟨blind, (run_rewired overheard blind ⟨false⟩ true).2.2 rfl, by cbv, by cbv⟩

end DemandLoad
