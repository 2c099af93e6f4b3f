import DemandLoad.Proofs.LoadBrackets
import DemandLoad.Proofs.OutermostPurpose
import DemandLoad.Proofs.SessionMoments
import Mathlib.Data.List.Nodup

namespace DemandLoad

variable {outlet : Outlet}

/-- The marks so far replay to the state of the loader, and the open loads are those of `running`. -/
structure Loader.Journaled (outlet : Outlet) (running : List String) (loader : Loader) : Prop where
  hears : loader.hears outlet = true
  nested : (loader.marks outlet).foldlM Mark.nest [] = some running
  replayed : Ledger.replay (loader.marks outlet) = loader.ledger
  once : ((loader.marks outlet).filterMap Mark.opens?).Nodup

theorem Loader.heard_of_hears {loader : Loader} (hears : loader.hears outlet = true) (news : List Mark) :
    loader.heard outlet news = news := if_pos hears

theorem Loader.Journaled.create {config : Config} {observed : Bool}
    (hears : (Loader.create config observed).hears outlet = true) :
    (Loader.create config observed).Journaled outlet [] :=
  ⟨hears, rfl, rfl, List.nodup_nil⟩

theorem Loader.Journaled.silent {before after : Loader} {running : List String}
    (journaled : before.Journaled outlet running) (adds : before.Adds outlet after [])
    (tracker : after.tracker = before.tracker) : after.Journaled outlet running := by
  have marks : after.marks outlet = before.marks outlet := by
    rw [adds.marks, Loader.heard_of_hears journaled.hears, List.append_nil]
  have ledger : after.ledger = before.ledger := congrArg Tracker.ledger tracker
  refine ⟨adds.hears_eq.trans journaled.hears, ?_, ?_, ?_⟩
  · rw [marks]
    exact journaled.nested
  · rw [marks, ledger]
    exact journaled.replayed
  · rw [marks]
    exact journaled.once

theorem Loader.Journaled.nodup_closed {loader : Loader} {running : List String}
    (journaled : loader.Journaled outlet running) : ((loader.marks outlet).filterMap Mark.closes?).Nodup := by
  have perm := Mark.perm_of_nest journaled.nested
  exact (List.nodup_append.mp (perm.nodup_iff.mp journaled.once)).2.1

theorem Loader.Journaled.nested_drop {before after : Loader} {running : List String} {news : List Mark}
    (earlier : before.Journaled outlet []) (later : after.Journaled outlet running)
    (marks : after.marks outlet = before.marks outlet ++ news) :
    ((after.marks outlet).drop (before.marks outlet).length).foldlM Mark.nest [] = some running := by
  have nested := later.nested
  rw [marks, List.foldlM_append, earlier.nested] at nested
  rw [marks, List.drop_left]
  exact nested

namespace Machine

variable {machine next : Machine} {loader : Loader} {news : List Mark} {name : String}

theorem Emits.journaled (active : machine.Active) (progress : Progress machine next)
    (adds : machine.loader.Adds outlet next.loader news) (emits : machine.Emits next news)
    (before : machine.loader.Journaled outlet machine.running) : next.loader.Journaled outlet next.running := by
  have marks := adds.marks
  rw [Loader.heard_of_hears before.hears] at marks
  refine ⟨adds.hears_eq.trans before.hears, ?_, ?_, ?_⟩
  · rw [marks, List.foldlM_append, before.nested]
    exact emits.nest
  · rw [marks, Ledger.replay, List.foldl_append, ← Ledger.replay, before.replayed]
    exact emits.replayed active progress
  · rw [marks, List.filterMap_append]
    rcases emits.opened progress with none_new | ⟨name, new, idle, -⟩
    · rw [none_new, List.append_nil]
      exact before.once
    · rw [new]
      have status : (Ledger.replay (machine.loader.marks outlet)).status name = .unloaded := by
        rw [before.replayed]
        exact idle
      refine List.nodup_append.mpr ⟨before.once, List.nodup_singleton name, ?_⟩
      rintro opened old other member rfl
      cases List.mem_singleton.mp member
      exact Ledger.begun_of_opened old status

theorem adds_start (loader : Loader) (action : Action) :
    loader.Adds outlet (Machine.start loader action).loader [] := by
  cases action with
  | register => exact Loader.adds_declare ..
  | request | requestAll | fail | query => exact .refl _

theorem running_start (loader : Loader) (action : Action) : (Machine.start loader action).running = [] := by
  cases action <;> rfl

end Machine

namespace Pass

variable {pass : Pass} {name : String} {count later : Nat}

theorem journaled (before : pass.loader.Journaled outlet []) (count : Nat) :
    (pass.state count).loader.Journaled outlet (pass.state count).running := by
  induction count with
  | zero =>
      rw [show (pass.state 0).running = [] from Machine.running_start pass.loader pass.action]
      exact before.silent (Machine.adds_start pass.loader pass.action) pass.tracker_start
  | succ count ih =>
      rcases pass.state_cases count with same | step
      · rw [same]
        exact ih
      · have active := (pass.sound count).active
        obtain ⟨news, adds, emits⟩ := step.publishes active outlet
        exact emits.journaled active (step.progress active) adds ih

theorem journaled_perform (before : pass.loader.Journaled outlet []) :
    (pass.loader.perform pass.action).1.Journaled outlet [] := by
  obtain ⟨last, answer, done, performed⟩ := pass.exists_done
  have idle : (pass.state last).running = [] := by
    rw [Machine.running, (pass.sound last).stacked.bottom (by rw [done]; trivial), done]
    rfl
  rw [performed, ← idle]
  exact journaled before last

/-- The marks that the outlet has got in the pass so far. -/
def gets (pass : Pass) (outlet : Outlet) (count : Nat) : List Mark :=
  ((pass.state count).loader.marks outlet).drop (pass.loader.marks outlet).length

theorem marks_eq (hears : pass.loader.hears outlet = true) (count : Nat) :
    (pass.state count).loader.hears outlet = true ∧
      (pass.state count).loader.marks outlet = pass.loader.marks outlet ++ pass.gets outlet count := by
  have adds : ∃ news, pass.loader.Adds outlet (pass.state count).loader news := by
    induction count with
    | zero => exact ⟨_, Machine.adds_start pass.loader pass.action⟩
    | succ count ih =>
        rcases pass.state_cases count with same | step
        · rw [same]
          exact ih
        · obtain ⟨news, earlier⟩ := ih
          obtain ⟨more, adds, -⟩ := step.publishes (pass.sound count).active outlet
          exact ⟨_, earlier.trans adds⟩
  obtain ⟨news, adds⟩ := adds
  exact ⟨adds.hears_eq.trans hears, by rw [gets, adds.marks, List.drop_left]⟩

theorem gets_zero (pass : Pass) (outlet : Outlet) : pass.gets outlet 0 = [] := by
  have marks : (pass.state 0).loader.marks outlet = _ := (Machine.adds_start pass.loader pass.action).marks
  rw [gets, marks, List.drop_left]
  exact ite_self []

theorem gets_succ (hears : pass.loader.hears outlet = true) {news : List Mark}
    (adds : (pass.state count).loader.Adds outlet (pass.state (count + 1)).loader news) :
    pass.gets outlet (count + 1) = pass.gets outlet count ++ news := by
  obtain ⟨still, marks⟩ := marks_eq hears count
  rw [gets, adds.marks, Loader.heard_of_hears still, marks, List.append_assoc, List.drop_left]

theorem requested_of_driven (hears : pass.loader.hears outlet = true)
    (driven : (pass.state count).control = .drive name) (order : count < later) :
    .told (.requested name) ∈ pass.gets outlet later := by
  induction order with
  | refl =>
      have step : Machine.Step (pass.state count) (pass.state (count + 1)) := step_of_busy (by simp [driven])
      obtain ⟨news, adds, emits⟩ := step.publishes (pass.sound count).active outlet
      rw [gets_succ hears adds]
      apply List.mem_append_right
      cases emits with
      | still asides asked => exact asked name driven
      | acts _ apart | fails _ apart => exact absurd driven (apart name)
      | begins _ _ control | ends _ control => cases control.symm.trans driven
  | @step later order ih =>
      rcases pass.state_cases later with same | step
      · rw [gets, same]
        exact ih
      · obtain ⟨news, adds, -⟩ := step.publishes (pass.sound later).active outlet
        rw [gets_succ hears adds]
        exact List.mem_append_left _ ih

theorem requested_of_begins (hears : pass.loader.hears outlet = true) {news : List Mark}
    (step : Machine.Step (pass.state count) (pass.state (count + 1)))
    (emits : (pass.state count).Emits (pass.state (count + 1)) news) (member : .told (.loading name) ∈ news) :
    .told (.requested name) ∈ pass.gets outlet count := by
  have opened : name ∈ news.filterMap Mark.opens? := List.mem_filterMap.mpr ⟨_, member, rfl⟩
  rcases emits.opened (step.progress (pass.sound count).active) with none_new | ⟨other, new, -, control⟩
  · rw [none_new] at opened
    cases opened
  · rw [new] at opened
    cases List.mem_singleton.mp opened
    obtain ⟨moment, past, captured, -⟩ := (pass.traced count).control name [] control
    exact requested_of_driven hears captured.driven captured.earlier

theorem requested_of_opened (hears : pass.loader.hears outlet = true) {before after : List Mark}
    (split : pass.gets outlet count = before ++ .told (.loading name) :: after) :
    .told (.requested name) ∈ before := by
  induction count generalizing after with
  | zero =>
      rw [gets_zero] at split
      cases before <;> cases split
  | succ count ih =>
      rcases pass.state_cases count with same | step
      · rw [gets, same] at split
        exact ih split
      · obtain ⟨news, adds, emits⟩ := step.publishes (pass.sound count).active outlet
        rw [gets_succ hears adds] at split
        rcases List.append_eq_append_iff.mp split with ⟨middle, rfl, rfl⟩ | ⟨middle, old, rest⟩
        · exact List.mem_append_left _ (requested_of_begins hears step emits (by simp))
        · cases middle with
          | nil =>
              rw [List.append_nil] at old
              rw [← old]
              refine requested_of_begins hears step emits ?_
              rw [← List.nil_append news, ← rest]
              exact List.mem_cons_self ..
          | cons mark middle =>
              cases rest
              exact ih old

end Pass

namespace Session

def gets (session : Session) (outlet : Outlet) (moment : Moment) : List Mark :=
  (session.pass moment.index).gets outlet moment.count

/-- The loads of a pass are nested, and the open ones are those of the running targets. Each load opens once in
the session, after a request in its pass, and is closed once. Replaying the journal gives the status of each
library, whether it has failed, and the load order. -/
structure JournalReplays (session : Session) (outlet : Outlet) : Prop where
  nested : ∀ moment, (session.gets outlet moment).foldlM Mark.nest [] = some (session.state moment).running
  ended : ∀ index, (((session.loader (index + 1)).marks outlet).drop
    ((session.loader index).marks outlet).length).foldlM Mark.nest [] = some []
  asked : ∀ moment before name after,
    session.gets outlet moment = before ++ .told (.loading name) :: after → .told (.requested name) ∈ before
  opened : ∀ moment, (((session.state moment).loader.marks outlet).filterMap Mark.opens?).Nodup
  closed : ∀ moment, (((session.state moment).loader.marks outlet).filterMap Mark.closes?).Nodup
  replayed : ∀ moment, Ledger.replay ((session.state moment).loader.marks outlet) =
    (session.state moment).loader.ledger
  between : ∀ index, Ledger.replay ((session.loader index).marks outlet) = (session.loader index).ledger

variable {session : Session}

theorem journaled_loader (hears : (Loader.create session.config session.observed).hears outlet = true)
    (index : Nat) : (session.loader index).Journaled outlet [] := by
  induction index with
  | zero => exact .create hears
  | succ index ih =>
      have before : (session.pass index).loader.Journaled outlet [] := ih
      exact Pass.journaled_perform before

theorem journalReplays (session : Session) (outlet : Outlet)
    (hears : (Loader.create session.config session.observed).hears outlet = true) :
    session.JournalReplays outlet := by
  have before := session.journaled_loader hears
  have journaled : ∀ moment, (session.state moment).loader.Journaled outlet (session.state moment).running :=
    fun moment => Pass.journaled (before moment.index) moment.count
  have marks : ∀ moment, (session.state moment).loader.marks outlet =
      (session.loader moment.index).marks outlet ++ session.gets outlet moment :=
    fun moment => (Pass.marks_eq (before moment.index).hears moment.count).2
  constructor
  case nested => exact fun moment => (before moment.index).nested_drop (journaled moment) (marks moment)
  case ended =>
    intro index
    obtain ⟨count, same⟩ := session.loader_succ index
    exact (before index).nested_drop (before (index + 1)) (by rw [same]; exact marks ⟨index, count⟩)
  case asked => exact fun moment _ _ _ split => Pass.requested_of_opened (before moment.index).hears split
  case opened => exact fun moment => (journaled moment).once
  case closed => exact fun moment => (journaled moment).nodup_closed
  case replayed => exact fun moment => (journaled moment).replayed
  case between => exact fun index => (before index).replayed

/-- The target of `base` requests `late`, which fails when it is resumed. -/
def recorded : Session := .ofList ⟨true⟩ true [
  .register "late" ["base"] (.program [.fail "boom"]),
  .register "base" [] (.program [.request "late" false]),
  .request "base" false]

theorem journalReplays_recorded : (Loader.create recorded.config recorded.observed).hears .observer = true ∧
    recorded.JournalReplays .observer ∧
    ((recorded.loader 3).marks .observer).filterMap Mark.opens? = ["base", "late"] ∧
    ((recorded.loader 3).ledger.status "late", (recorded.loader 3).ledger.isFailed "late",
      (recorded.loader 3).ledger.loaded) = (.loading, true, ["base"]) := by
  have hears : (Loader.create recorded.config recorded.observed).hears .observer = true := by decide
  exact ⟨hears, journalReplays recorded .observer hears, by cbv, by cbv⟩

end Session

end DemandLoad
