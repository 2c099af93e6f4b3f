import DemandLoad.Proofs.TrackerOperations

namespace DemandLoad

namespace Tracker

variable {tracker first second third next : Tracker} {name blocker : String} {op : Op} {result : Result}

/-- How the statuses, failures, queues and load order of a tracker agree. -/
structure Coherent (tracker : Tracker) : Prop where
  nodup : tracker.loadOrder.Nodup
  mem_loadOrder : ∀ name, name ∈ tracker.loadOrder ↔ tracker.status name = .loaded
  failed : ∀ name, tracker.isFailed name = true → tracker.status name = .loading
  tidy : tracker.Tidy
  distinct : tracker.Distinct

theorem Coherent.empty : Tracker.empty.Coherent where
  nodup := .nil
  mem_loadOrder _ := iff_of_false nofun nofun
  failed _ := nofun
  tidy _ := nofun
  distinct _ := .nil

theorem Coherent.started (coherent : tracker.Coherent) (idle : tracker.status name = .unloaded) :
    (tracker.setStatus name .loading).Coherent where
  nodup := coherent.nodup
  mem_loadOrder other := by
    rw [status_setStatus]
    refine (coherent.mem_loadOrder other).trans ?_
    split
    case isTrue same => simp [same, idle]
    case isFalse => rfl
  failed other failed := by
    rw [status_setStatus]
    split
    case isTrue => rfl
    case isFalse => exact coherent.failed other failed
  tidy := coherent.tidy
  distinct := coherent.distinct

theorem Coherent.finished (coherent : tracker.Coherent) (loading : tracker.status name = .loading)
    (sound : tracker.isFailed name = false) :
    Coherent { tracker.finished name with queues := tracker.queues.erase name } where
  nodup := by
    refine List.nodup_append.mpr ⟨coherent.nodup, by simp, ?_⟩
    rintro other old _ arrival rfl
    obtain rfl := List.mem_singleton.mp arrival
    cases loading.symm.trans ((coherent.mem_loadOrder other).mp old)
  mem_loadOrder other := by
    have status : Tracker.status { tracker.finished name with queues := tracker.queues.erase name } other =
        if other = name then .loaded else tracker.status other := status_setStatus tracker name other .loaded
    rw [status]
    refine List.mem_append.trans ?_
    rw [coherent.mem_loadOrder, List.mem_singleton]
    by_cases same : other = name <;> simp [same]
  failed other failed := by
    refine (status_setStatus tracker name other .loaded).trans ?_
    split
    case isTrue same =>
      subst same
      cases sound.symm.trans failed
    case isFalse => exact coherent.failed other failed
  tidy row member := coherent.tidy row (List.mem_filter.mp member).1
  distinct other := by
    refine (congrArg List.Nodup (queueIn_erase tracker.queues name other)).mpr ?_
    split
    · exact .nil
    · exact coherent.distinct other

theorem Coherent.withFailure (coherent : tracker.Coherent) (loading : tracker.status name = .loading) :
    (tracker.withFailure name).Coherent where
  nodup := coherent.nodup
  mem_loadOrder := coherent.mem_loadOrder
  failed other failed := by
    rcases (isFailed_withFailure tracker name other).mp failed with old | rfl
    · exact coherent.failed other old
    · exact loading
  tidy := coherent.tidy
  distinct := coherent.distinct

theorem Coherent.defer (coherent : tracker.Coherent) (name blocker : String) :
    (tracker.defer name blocker).1.Coherent where
  nodup := by rw [loadOrder_defer]; exact coherent.nodup
  mem_loadOrder other := by rw [loadOrder_defer, status, statuses_defer]; exact coherent.mem_loadOrder other
  failed other failed := by
    rw [isFailed, failed_defer] at failed
    rw [status, statuses_defer]
    exact coherent.failed other failed
  tidy := coherent.tidy.defer name blocker
  distinct := coherent.distinct.defer name blocker

theorem Coherent.drop (coherent : tracker.Coherent) (roots : List String) :
    (tracker.drop roots).1.Coherent where
  nodup := coherent.nodup
  mem_loadOrder := coherent.mem_loadOrder
  failed := coherent.failed
  tidy := coherent.tidy.drop roots
  distinct := coherent.distinct.drop roots

theorem Performs.coherent (performs : tracker.Performs op next result) (coherent : tracker.Coherent) :
    next.Coherent := by
  cases performs with
  | started idle => exact coherent.started idle
  | finished loading sound => exact coherent.finished loading sound
  | failed loading => exact (coherent.withFailure loading).drop _
  | deferred => exact coherent.defer _ _
  | dropped => exact coherent.drop _
  | queued | inspected | refused => exact coherent

theorem coherent_applyAll (ops : List Op) : (empty.applyAll ops).Coherent :=
  applyAll_induction ops .empty fun tracker op => (tracker.performs op).coherent

structure Extends (earlier later : Tracker) : Prop where
  status : ∀ name, (earlier.status name).stage ≤ (later.status name).stage
  failed : ∀ name, earlier.isFailed name = true → later.isFailed name = true

theorem Extends.refl (tracker : Tracker) : tracker.Extends tracker :=
  ⟨fun _ => Nat.le_refl _, fun _ failed => failed⟩

theorem Extends.trans (before : first.Extends second) (after : second.Extends third) : first.Extends third :=
  ⟨fun name => Nat.le_trans (before.status name) (after.status name),
    fun name failed => after.failed name (before.failed name failed)⟩

theorem Extends.setStatus {further : Status} (onward : (tracker.status name).stage ≤ further.stage) :
    tracker.Extends (tracker.setStatus name further) where
  status other := by
    rw [status_setStatus]
    split
    case isTrue same => exact same ▸ onward
    case isFalse => exact Nat.le_refl _
  failed _ failed := failed

theorem Performs.extends (performs : tracker.Performs op next result) : tracker.Extends next := by
  cases performs with
  | started idle => exact .setStatus (by rw [idle]; decide)
  | finished loading sound =>
      have moved : tracker.Extends (tracker.setStatus _ .loaded) := .setStatus (by rw [loading]; decide)
      exact ⟨moved.status, moved.failed⟩
  | failed loading =>
      exact ⟨fun _ => Nat.le_refl _, fun other failed => (isFailed_withFailure ..).mpr (.inl failed)⟩
  | @deferred name blocker =>
      have same := SameProgress.defer tracker name blocker
      refine ⟨?_, ?_⟩
      · exact fun other => Nat.le_of_eq (congrArg Status.stage (same.status other)).symm
      · exact fun other failed => (same.isFailed other).trans failed
  | dropped => exact ⟨fun _ => Nat.le_refl _, fun _ failed => failed⟩
  | queued | inspected | refused => exact .refl _

theorem extends_applyAll (tracker : Tracker) (later : List Op) : tracker.Extends (tracker.applyAll later) :=
  applyAll_induction later (.refl tracker) fun between op onward =>
    onward.trans (between.performs op).extends

def finished? : Op × Result → Option String
  | (.finish name, .names _) => some name
  | _ => none

theorem Performs.loadOrder_eq (performs : tracker.Performs op next result) :
    next.loadOrder = tracker.loadOrder ++ (finished? (op, result)).toList := by
  cases performs with
  | finished => rfl
  | deferred => rw [loadOrder_defer]; exact (List.append_nil _).symm
  | refused refuses => cases refuses <;> exact (List.append_nil _).symm
  | started | failed | dropped | queued | inspected => exact (List.append_nil _).symm

theorem loadOrder_applyAll (tracker : Tracker) (ops : List Op) :
    (tracker.applyAll ops).loadOrder = tracker.loadOrder ++ (tracker.history ops).filterMap finished? := by
  induction ops generalizing tracker with
  | nil => exact (List.append_nil _).symm
  | cons op ops ih =>
      have now := (tracker.performs op).loadOrder_eq
      refine (ih (tracker.apply op).1).trans ?_
      rw [now, history, List.filterMap_cons, List.append_assoc]
      cases finished? (op, (tracker.apply op).2) <;> rfl

theorem refuses_of_refused {refusal : Refusal} (answered : (tracker.apply op).2 = .refused refusal) :
    (tracker.apply op).1 = tracker ∧ tracker.Refuses op refusal := by
  obtain ⟨next, result, called, performs⟩ := tracker.exists_performs op
  rw [called] at answered ⊢
  cases answered
  cases performs with
  | refused refuses => exact ⟨rfl, refuses⟩

/-- The library that a call is about, and the status that it tries to set. -/
inductive Asks : Op → String → Status → Prop
  | start {name : String} : Asks (.start name) name .loading
  | finish {name : String} : Asks (.finish name) name .loaded
  | fail {name : String} : Asks (.fail name) name .loading

theorem Refuses.asks {refusal : Refusal} (refuses : tracker.Refuses op refusal) :
    Asks op refusal.library refusal.wanted := by
  cases refuses with
  | start => exact .start
  | finishFailed | finish => exact .finish
  | fail => exact .fail

theorem Refuses.current_eq {refusal : Refusal} (refuses : tracker.Refuses op refusal)
    (coherent : tracker.Coherent) : refusal.current = tracker.status refusal.library := by
  cases refuses with
  | finishFailed failed => exact (coherent.failed _ failed).symm
  | start | finish | fail => rfl

theorem start_iff (tracker : Tracker) (name : String) :
    (tracker.apply (.start name)).2 = .done ↔ tracker.status name = .unloaded := by
  obtain ⟨next, result, called, performs⟩ := tracker.exists_performs (.start name)
  rw [called]
  cases performs with
  | started idle => exact iff_of_true rfl idle
  | refused refuses => cases refuses with | start begun => exact iff_of_false nofun begun

theorem finish_iff (tracker : Tracker) (name : String) :
    (∃ resumed, (tracker.apply (.finish name)).2 = .names resumed) ↔
      tracker.status name = .loading ∧ tracker.isFailed name = false := by
  obtain ⟨next, result, called, performs⟩ := tracker.exists_performs (.finish name)
  rw [called]
  cases performs with
  | finished loading sound => exact iff_of_true ⟨_, rfl⟩ ⟨loading, sound⟩
  | refused refuses =>
      refine iff_of_false nofun ?_
      rintro ⟨loading, sound⟩
      cases refuses with
      | finishFailed failed => cases sound.symm.trans failed
      | finish _ idle => exact idle loading

theorem fail_iff (tracker : Tracker) (name : String) :
    (∃ dropped, (tracker.apply (.fail name)).2 = .waiters dropped) ↔ tracker.status name = .loading := by
  obtain ⟨next, result, called, performs⟩ := tracker.exists_performs (.fail name)
  rw [called]
  cases performs with
  | failed loading => exact iff_of_true ⟨_, rfl⟩ loading
  | refused refuses => cases refuses with | fail idle => exact iff_of_false nofun idle

theorem status_of_done {name : String} (answered : (tracker.apply (.start name)).2 = .done) (other : String) :
    (tracker.apply (.start name)).1.status other = if other = name then .loading else tracker.status other := by
  obtain ⟨next, result, called, performs⟩ := tracker.exists_performs (.start name)
  rw [called] at answered ⊢
  cases performs with
  | started => exact status_setStatus tracker name other .loading
  | refused => cases answered

theorem status_of_names {name : String} {resumed : List String}
    (answered : (tracker.apply (.finish name)).2 = .names resumed) (other : String) :
    (tracker.apply (.finish name)).1.status other = if other = name then .loaded else tracker.status other := by
  obtain ⟨next, result, called, performs⟩ := tracker.exists_performs (.finish name)
  rw [called] at answered ⊢
  cases performs with
  | finished => exact status_setStatus tracker name other .loaded
  | refused => cases answered

theorem isFailed_of_waiters {name : String} {dropped : List Waiter}
    (answered : (tracker.apply (.fail name)).2 = .waiters dropped) (other : String) :
    (tracker.apply (.fail name)).1.isFailed other = true ↔ tracker.isFailed other = true ∨ other = name := by
  obtain ⟨next, result, called, performs⟩ := tracker.exists_performs (.fail name)
  rw [called] at answered ⊢
  cases performs with
  | failed => exact isFailed_withFailure tracker name other
  | refused => cases answered

/-- What holds of a tracker after some calls, and of the next call. -/
structure Lawful (ops : List Op) (tracker : Tracker) : Prop where
  nodup : tracker.loadOrder.Nodup
  mem_loadOrder : ∀ name, name ∈ tracker.loadOrder ↔ tracker.status name = .loaded
  loadOrder : tracker.loadOrder = (empty.history ops).filterMap finished?
  failed : ∀ name, tracker.isFailed name = true → tracker.status name = .loading ∧
    ∀ later, (tracker.applyAll later).isFailed name = true ∧ (tracker.applyAll later).status name = .loading
  queues : ∀ row ∈ tracker.queues.entries, row.2 ≠ [] ∧ row.2.Nodup
  forward : ∀ later name, (tracker.status name).stage ≤ ((tracker.applyAll later).status name).stage
  starts : ∀ name, (tracker.apply (.start name)).2 = .done ↔ tracker.status name = .unloaded
  finishes : ∀ name, (∃ resumed, (tracker.apply (.finish name)).2 = .names resumed) ↔
    tracker.status name = .loading ∧ tracker.isFailed name = false
  fails : ∀ name, (∃ dropped, (tracker.apply (.fail name)).2 = .waiters dropped) ↔
    tracker.status name = .loading
  started : ∀ name, (tracker.apply (.start name)).2 = .done → ∀ other,
    (tracker.apply (.start name)).1.status other = if other = name then .loading else tracker.status other
  finished : ∀ name resumed, (tracker.apply (.finish name)).2 = .names resumed → ∀ other,
    (tracker.apply (.finish name)).1.status other = if other = name then .loaded else tracker.status other
  recorded : ∀ name dropped, (tracker.apply (.fail name)).2 = .waiters dropped → ∀ other,
    (tracker.apply (.fail name)).1.isFailed other = true ↔ tracker.isFailed other = true ∨ other = name
  refused : ∀ op refusal, (tracker.apply op).2 = .refused refusal → (tracker.apply op).1 = tracker ∧
    Asks op refusal.library refusal.wanted ∧ refusal.current = tracker.status refusal.library

/-- Whatever calls are made of an empty tracker, its parts agree, statuses only move forward, and exactly the
calls that would not move one forward are refused. -/
theorem lawful_applyAll (ops : List Op) : Lawful ops (empty.applyAll ops) where
  nodup := (coherent_applyAll ops).nodup
  mem_loadOrder := (coherent_applyAll ops).mem_loadOrder
  loadOrder := loadOrder_applyAll empty ops
  failed name failed := by
    refine ⟨(coherent_applyAll ops).failed name failed, ?_⟩
    intro later
    -- Failures stay, and after the later calls too a failed library is one that loads.
    have still := (extends_applyAll (empty.applyAll ops) later).failed name failed
    rw [← applyAll_append] at still ⊢
    exact ⟨still, (coherent_applyAll (ops ++ later)).failed name still⟩
  queues row member := by
    have queue : (empty.applyAll ops).queue row.1 = row.2 := by
      rw [Tracker.queue, Table.get?_of_mem _ member, Option.getD_some]
    exact ⟨(coherent_applyAll ops).tidy row member, queue ▸ (coherent_applyAll ops).distinct row.1⟩
  forward later name := (extends_applyAll _ later).status name
  starts := start_iff _
  finishes := finish_iff _
  fails := fail_iff _
  started _ := status_of_done
  finished _ _ := status_of_names
  recorded _ _ := isFailed_of_waiters
  refused op refusal answered := by
    obtain ⟨same, refuses⟩ := refuses_of_refused answered
    exact ⟨same, refuses.asks, refuses.current_eq (coherent_applyAll ops)⟩

end Tracker

end DemandLoad
