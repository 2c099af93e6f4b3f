import DemandLoad.Proofs.JournalObservation
import DemandLoad.Proofs.TrackerAgreement
import DemandLoad.Proofs.WalkDependencies

/-!
Loaders that may differ in the records of libraries whose load has begun, and in where they announce
transitions. Every change of a loader preserves the relation, and an observer who ignores these differences sees
the same events of both.
-/

namespace DemandLoad

def LogEntry.Redeclares : LogEntry → Prop
  | .redeclaredLoading _ _ _ | .redeclaredLoaded _ _ _ => True
  | .announced _ | .targetMissing _ | .targetFailed _ _ | .neverDeclared _ _ => False

theorem Registry.names_takeTarget {registry later : Registry Target} {name : String} {target : Option Target}
    (taken : registry.takeTarget? name = some (target, later)) : later.names = registry.names := by
  obtain ⟨library, known, row⟩ := Option.map_eq_some_iff.mp taken
  cases row
  have member : name ∈ registry.libraries.keys :=
    (registry.libraries.contains_iff name).mp (Option.isSome_iff_exists.mpr ⟨library, known⟩)
  exact (registry.libraries.keys_insert name _).trans (if_pos member)

namespace Loader

variable {α : Type} {see : Event → Option α} {ordered : Prop} {past further : List α}

/-- The loaders agree on all but the records of libraries that are not unloaded, the order of the tables of
their trackers, their outlets and their journals. -/
structure Similar (one other : Loader) : Prop where
  names : other.registry.names = one.registry.names
  records : ∀ name, one.status name = .unloaded → other.registry.lookup? name = one.registry.lookup? name
  tracker : one.tracker.Agrees other.tracker
  unresolved : other.unresolved = one.unresolved
  failures : other.failures = one.failures
  orphaned : other.orphaned = one.orphaned

/-- The loaders are similar, and `see` shows the same new events of both. It shows no difference in how they
announce transitions; and if the registries differ, it does not show late declarations. If `ordered`, the tables
of the trackers are equal row by row. -/
structure Abreast (see : Event → Option α) (ordered : Prop) (past further : List α) (one other : Loader) : Prop
    extends Similar one other where
  tables : ordered → other.tracker = one.tracker
  announces : ∀ transition, (other.announcement transition).filterMap see =
    (one.announcement transition).filterMap see
  declares : other.registry = one.registry ∨ ∀ entry, entry.Redeclares → see (.logged entry) = none
  seen : ∃ news, one.sights see = past ++ news ∧ other.sights see = further ++ news

/-- What is logged of a declaration that comes after the load has begun. -/
def remarks (loader : Loader) (name : String) (dependencies : List String) : List LogEntry :=
  match loader.registry.dependencies? name with
  | none => []
  | some previous =>
    if previous = dependencies then []
    else match loader.status name with
      | .unloaded => []
      | .loading => [.redeclaredLoading name previous dependencies]
      | .loaded => [.redeclaredLoaded name previous dependencies]

theorem declare_eq (loader : Loader) (name : String) (dependencies : List String) (target : Target) :
    loader.declare name dependencies target =
      { loader with
        registry := loader.registry.insert (.declare name target dependencies)
        journal := loader.journal ++ (loader.remarks name dependencies).map .logged } := by
  unfold declare remarks
  cases loader.registry.dependencies? name with
  | none => simp
  | some previous =>
      by_cases same : previous = dependencies
      · simp [same]
      · cases loader.status name <;> simp [same, log, note]

theorem redeclares_of_remarks {loader : Loader} {name : String} {dependencies : List String} {entry : LogEntry}
    (member : entry ∈ loader.remarks name dependencies) : entry.Redeclares := by
  unfold remarks at member
  split at member
  · cases member
  · split at member
    · cases member
    · split at member
      · cases member
      · cases List.mem_singleton.mp member
        trivial
      · cases List.mem_singleton.mp member
        trivial

namespace Similar

variable {one other : Loader} (similar : one.Similar other)
include similar

theorem status (name : String) : other.status name = one.status name := similar.tracker.status name

theorem isFailed (name : String) : other.isFailed name = one.isFailed name := similar.tracker.isFailed name

theorem loaded : other.loaded = one.loaded := similar.tracker.loadOrder

theorem contains (name : String) : other.registry.contains name = one.registry.contains name := by
  rw [Bool.eq_iff_iff, Registry.contains_iff, Registry.contains_iff, similar.names]

theorem dependencies {name : String} (idle : one.status name = .unloaded) :
    other.dependencies name = one.dependencies name := by
  simp only [Loader.dependencies, Registry.dependencies?, similar.records name idle]

theorem due : other.due = one.due := by
  unfold Loader.due
  rw [similar.unresolved]
  exact List.filter_congr fun name _ => similar.contains name

theorem swept (start : String) : Machine.swept other start = Machine.swept one start := by
  rw [Machine.swept, similar.names, Machine.swept]

end Similar

namespace Abreast

variable {one other : Loader} {name blocker : String} (abreast : one.Abreast see ordered past further other)
include abreast

theorem tell {events others : List Event} (same : others.filterMap see = events.filterMap see) :
    Abreast see ordered past further { one with journal := one.journal ++ events }
      { other with journal := other.journal ++ others } := by
  obtain ⟨news, first, second⟩ := abreast.seen
  refine { abreast with seen := ⟨news ++ events.filterMap see, ?_, ?_⟩ }
  · rw [sights, List.filterMap_append, ← List.append_assoc, ← first, sights]
  · rw [sights, List.filterMap_append, same, ← List.append_assoc, ← second, sights]

theorem note {event another : Event} (same : see another = see event) :
    (one.note event).Abreast see ordered past further (other.note another) := by
  have told : [another].filterMap see = [event].filterMap see := by simp only [List.filterMap_cons, same]
  exact abreast.tell told

theorem log (entry : LogEntry) : (one.log entry).Abreast see ordered past further (other.log entry) :=
  abreast.note rfl

theorem announce (transition : Transition) :
    (one.announce transition).Abreast see ordered past further (other.announce transition) :=
  abreast.tell (abreast.announces transition)

theorem announceAbandoned (dropped : List Waiter) :
    (one.announceAbandoned dropped).Abreast see ordered past further (other.announceAbandoned dropped) := by
  refine abreast.tell ?_
  rw [List.filterMap_flatMap, List.filterMap_flatMap]
  congr 1
  funext waiter
  exact abreast.announces _

theorem track {tracker later : Tracker} (agrees : tracker.Agrees later)
    (tables : other.tracker = one.tracker → later = tracker)
    (idle : ∀ name, tracker.status name = .unloaded → one.status name = .unloaded) :
    Abreast see ordered past further { one with tracker } { other with tracker := later } :=
  { abreast with
    records := fun name waits => abreast.records name (idle name waits)
    tracker := agrees
    tables := fun exact => tables (abreast.tables exact) }

theorem defer (name blocker : String) :
    (one.defer name blocker).Abreast see ordered past further (other.defer name blocker) := by
  obtain ⟨new, agrees⟩ := abreast.tracker.defer name blocker
  have moved : Abreast see ordered past further { one with tracker := (one.tracker.defer name blocker).1 }
      { other with tracker := (other.tracker.defer name blocker).1 } := by
    refine abreast.track agrees (fun same => by rw [same]) fun asked waits => ?_
    rwa [Tracker.status, Tracker.statuses_defer] at waits
  simp only [Loader.defer, new]
  split
  · exact moved.announce _
  · exact moved

theorem drop (roots : List String) : (other.tracker.drop roots).2 = (one.tracker.drop roots).2 ∧
    Abreast see ordered past further { one with tracker := (one.tracker.drop roots).1 }
      { other with tracker := (other.tracker.drop roots).1 } := by
  obtain ⟨dropped, agrees⟩ := abreast.tracker.drop roots
  exact ⟨dropped, abreast.track agrees (fun same => by rw [same]) fun _ waits => waits⟩

theorem dropBehind (name : String) :
    (one.dropBehind name).Abreast see ordered past further (other.dropBehind name) := by
  obtain ⟨dropped, moved⟩ := abreast.drop [name]
  simp only [Loader.dropBehind, dropped]
  exact moved.announceAbandoned _

theorem remember (name : String) : (one.remember name).Abreast see ordered past further (other.remember name) := by
  simp only [Loader.remember, abreast.unresolved]
  split
  · exact abreast
  · exact { abreast with unresolved := rfl }

theorem forget (name : String) : (one.forget name).Abreast see ordered past further (other.forget name) := by
  simp only [Loader.forget, abreast.unresolved]
  exact { abreast with unresolved := rfl }

theorem orphan (result : Except LoadError Outcome) :
    (one.orphan result).Abreast see ordered past further (other.orphan result) := by
  cases result with
  | ok outcome => exact abreast
  | error error =>
      simp only [Loader.orphan, abreast.orphaned]
      split
      · exact abreast
      · exact { abreast with orphaned := rfl }

theorem failTarget (name cause : String) :
    (other.failTarget name cause).2 = (one.failTarget name cause).2 ∧
      (one.failTarget name cause).1.Abreast see ordered past further (other.failTarget name cause).1 := by
  unfold Loader.failTarget
  cases ended : one.tracker.fail name with
  | error refusal =>
      rw [abreast.tracker.fail_error ended]
      exact ⟨rfl, abreast⟩
  | ok left =>
      obtain ⟨tracker, dropped⟩ := left
      obtain ⟨later, ended_too, agrees⟩ := abreast.tracker.fail_ok ended
      have tables : other.tracker = one.tracker → later = tracker := by
        intro same
        rw [same, ended] at ended_too
        cases ended_too
        rfl
      have idle : ∀ name, tracker.status name = .unloaded → one.status name = .unloaded := by
        intro name waits
        simp only [Tracker.fail] at ended
        split at ended <;> cases ended
        exact waits
      have told := (((abreast.track agrees tables idle).log (.targetFailed ⟨name, cause⟩ dropped.length)).announce
        (.failed name)).announceAbandoned dropped
      rw [ended_too]
      refine ⟨rfl, { told with failures := ?_ }⟩
      exact congrArg (· ++ [⟨name, cause⟩]) told.failures

/-- Both take the same target, since the records of unloaded libraries agree. -/
theorem begin {target : Option Target} {registry : Registry Target} (idle : one.status name = .unloaded)
    (taken : one.registry.takeTarget? name = some (target, registry)) : ∃ registry',
      other.registry.takeTarget? name = some (target, registry') ∧
        ((one.beginLoad name registry).noteTarget name target).Abreast see ordered past further
          ((other.beginLoad name registry').noteTarget name target) := by
  obtain ⟨library, known, row⟩ := Option.map_eq_some_iff.mp taken
  have same : other.registry.lookup? name = some library := (abreast.records name idle).trans known
  have found : other.registry.takeTarget? name = some (target,
      ⟨other.registry.libraries.insert name (Registry.clearTarget library)⟩) := by
    rw [Registry.takeTarget?, same]
    cases row
    rfl
  refine ⟨_, found, ?_⟩
  have started : Abreast see ordered past further
      { one with registry, tracker := one.tracker.setStatus name .loading }
      { other with
        registry := ⟨other.registry.libraries.insert name (Registry.clearTarget library)⟩
        tracker := other.tracker.setStatus name .loading } := by
    refine { abreast with names := ?_, records := ?_, tracker := ?_, declares := ?_, tables := ?_ }
    · exact (Registry.names_takeTarget found).trans (abreast.names.trans (Registry.names_takeTarget taken).symm)
    · intro another waits
      rw [Loader.status, Tracker.status_setStatus] at waits
      split at waits
      case isTrue => cases waits
      case isFalse apart =>
        rw [Machine.lookup?_of_taken found, Machine.lookup?_of_taken taken, if_neg apart, if_neg apart]
        exact abreast.records another waits
    · exact abreast.tracker.setStatus name .loading
    · exact fun exact => by rw [abreast.tables exact]
    · refine abreast.declares.imp_left fun same => ?_
      cases row
      rw [same]
  have announced := started.announce (.loading name)
  cases target with
  | none => exact announced.log _
  | some target =>
      cases target with
      | noop => exact announced
      | program actions => exact announced.note rfl

theorem endLoad {tracker : Tracker} {waiting : List String}
    (finished : one.tracker.finish name = .ok (tracker, waiting)) : ∃ later,
      other.tracker.finish name = .ok (later, waiting) ∧
        (one.endLoad name tracker).Abreast see ordered past further (other.endLoad name later) := by
  obtain ⟨later, finished_too, agrees⟩ := abreast.tracker.finish_ok finished
  refine ⟨later, finished_too, (abreast.track agrees ?_ ?_).announce _⟩
  · intro same
    rw [same, finished] at finished_too
    cases finished_too
    rfl
  · intro asked waits
    rw [Tracker.status_finish finished] at waits
    split at waits
    · cases waits
    · exact waits

theorem takeErrors : other.takeErrors.2 = one.takeErrors.2 ∧
    one.takeErrors.1.Abreast see ordered past further other.takeErrors.1 := by
  simp only [Loader.takeErrors, abreast.failures, abreast.orphaned]
  exact ⟨trivial, { abreast with failures := rfl, orphaned := rfl }⟩

theorem giveUpUnresolved : other.giveUpUnresolved.2 = one.giveUpUnresolved.2 ∧
    one.giveUpUnresolved.1.Abreast see ordered past further other.giveUpUnresolved.1 := by
  unfold Loader.giveUpUnresolved
  rw [abreast.unresolved]
  split
  · exact ⟨rfl, abreast⟩
  case h_2 first others missing =>
    obtain ⟨dropped, moved⟩ := abreast.drop (first :: others)
    have given : Abreast see ordered past further
        { one with tracker := (one.tracker.drop (first :: others)).1, unresolved := [] }
        { other with tracker := (other.tracker.drop (first :: others)).1, unresolved := [] } :=
      { moved with unresolved := rfl }
    simp only [dropped]
    exact ⟨trivial, (given.announceAbandoned _).log _⟩

theorem declare (name : String) (dependencies : List String) (target : Target) :
    (one.declare name dependencies target).Abreast see ordered past further
      (other.declare name dependencies target) := by
  rw [declare_eq, declare_eq]
  have declared : Abreast see ordered past further
      { one with registry := one.registry.insert (.declare name target dependencies) }
      { other with registry := other.registry.insert (.declare name target dependencies) } := by
    refine { abreast with names := ?_, records := ?_, declares := ?_ }
    · rw [Registry.names_insert, Registry.names_insert, abreast.names]
    · intro another waits
      rw [Registry.lookup?_insert, Registry.lookup?_insert, abreast.records another waits]
    · exact abreast.declares.imp_left fun same => by rw [same]
  refine declared.tell ?_
  rcases abreast.declares with same | unseen
  · have alike : other.remarks name dependencies = one.remarks name dependencies := by
      rw [remarks, same, abreast.status, remarks]
    rw [alike]
  · have silent : ∀ loader : Loader,
        ((loader.remarks name dependencies).map Event.logged).filterMap see = [] := by
      intro loader
      refine List.filterMap_eq_nil_iff.mpr fun event member => ?_
      obtain ⟨entry, remarked, rfl⟩ := List.mem_map.mp member
      exact unseen entry (redeclares_of_remarks remarked)
    rw [silent, silent]

end Abreast

end Loader

end DemandLoad
