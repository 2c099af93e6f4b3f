import DemandLoad.Tracker.Op
import DemandLoad.Proofs.BreadthFirstDrop
import DemandLoad.Proofs.PendingRequests

namespace DemandLoad

def Status.stage : Status → Nat
  | .unloaded => 0
  | .loading => 1
  | .loaded => 2

theorem Table.mem_put {α : Type} {key : String} {value : α} {row : String × α}
    {rows : List (String × α)} (member : row ∈ Table.put key value rows) :
    row = (key, value) ∨ row ∈ rows := by
  induction rows with
  | nil => exact .inl (List.mem_singleton.mp member)
  | cons first rows ih =>
      obtain ⟨name, held⟩ := first
      simp only [Table.put] at member
      split at member
      · exact (List.mem_cons.mp member).imp_right (List.mem_cons_of_mem _)
      · rcases List.mem_cons.mp member with rfl | later
        · exact .inr (List.mem_cons_self ..)
        · exact (ih later).imp_right (List.mem_cons_of_mem _)

theorem Table.get?_of_mem {α : Type} (table : Table α) {row : String × α} (member : row ∈ table.entries) :
    table.get? row.1 = some row.2 := by
  obtain ⟨entries, distinct⟩ := table
  simp only [get?] at member ⊢
  induction entries with
  | nil => cases member
  | cons first rows ih =>
      obtain ⟨apart, further⟩ := List.nodup_cons.mp distinct
      rw [lookup_row]
      rcases List.mem_cons.mp member with rfl | later
      · exact if_pos rfl
      · rw [if_neg]
        · exact ih further later
        · rintro same
          exact apart (same ▸ List.mem_map_of_mem later)

namespace Tracker

variable {tracker next : Tracker} {name blocker : String} {op : Op} {ops : List Op}

def withFailure (tracker : Tracker) (name : String) : Tracker :=
  { tracker with failed := if tracker.isFailed name then tracker.failed else tracker.failed ++ [name] }

theorem isFailed_withFailure (tracker : Tracker) (name other : String) :
    (tracker.withFailure name).isFailed other = true ↔ tracker.isFailed other = true ∨ other = name := by
  simp only [isFailed, withFailure, List.contains_iff_mem]
  split
  case isTrue known =>
    constructor
    · exact .inl
    · rintro (old | rfl)
      · exact old
      · exact known
  case isFalse => simp

/-- Why a call is refused, and with which refusal. -/
inductive Refuses (tracker : Tracker) : Op → Refusal → Prop
  | start {name : String} (begun : tracker.status name ≠ .unloaded) :
      Refuses tracker (.start name) ⟨name, tracker.status name, .loading⟩
  | finishFailed {name : String} (failed : tracker.isFailed name = true) :
      Refuses tracker (.finish name) ⟨name, .loading, .loaded⟩
  | finish {name : String} (sound : tracker.isFailed name = false) (idle : tracker.status name ≠ .loading) :
      Refuses tracker (.finish name) ⟨name, tracker.status name, .loaded⟩
  | fail {name : String} (idle : tracker.status name ≠ .loading) :
      Refuses tracker (.fail name) ⟨name, tracker.status name, .loading⟩

/-- The tracker after a call, and the answer. -/
inductive Performs (tracker : Tracker) : Op → Tracker → Result → Prop
  | started {name : String} (idle : tracker.status name = .unloaded) :
      Performs tracker (.start name) (tracker.setStatus name .loading) .done
  | finished {name : String} (loading : tracker.status name = .loading)
      (sound : tracker.isFailed name = false) :
      Performs tracker (.finish name) { tracker.finished name with queues := tracker.queues.erase name }
        (.names (tracker.queue name))
  | failed {name : String} (loading : tracker.status name = .loading) :
      Performs tracker (.fail name) ((tracker.withFailure name).drop [name]).1
        (.waiters ((tracker.withFailure name).drop [name]).2)
  | deferred {name blocker : String} : Performs tracker (.defer name blocker) (tracker.defer name blocker).1
      (.isNew (tracker.defer name blocker).2)
  | dropped {roots : List String} :
      Performs tracker (.drop roots) (tracker.drop roots).1 (.waiters (tracker.drop roots).2)
  | queued {name : String} : Performs tracker (.queued name) tracker (.names (tracker.queue name))
  | inspected : Performs tracker .inspect tracker (.text tracker.inspect)
  | refused {op : Op} {refusal : Refusal} (refuses : tracker.Refuses op refusal) :
      Performs tracker op tracker (.refused refusal)

theorem performs (tracker : Tracker) (op : Op) :
    tracker.Performs op (tracker.apply op).1 (tracker.apply op).2 := by
  cases op with
  | start name =>
      simp only [apply, start]
      split
      case h_1 refusal refused =>
        split at refused
        case isTrue => cases refused
        case isFalse begun => cases refused; exact .refused (.start begun)
      case h_2 next accepted =>
        split at accepted
        case isTrue idle => cases accepted; exact .started idle
        case isFalse => cases accepted
  | finish name =>
      simp only [apply]
      cases ended : tracker.finish name with
      | ok left =>
          obtain ⟨next, waiting⟩ := left
          obtain ⟨loading, sound, rfl, rfl⟩ := finish_eq_ok ended
          exact .finished loading sound
      | error refusal =>
          unfold finish at ended
          split at ended
          case isTrue failed => cases ended; exact .refused (.finishFailed failed)
          case isFalse sound =>
            split at ended
            case isTrue => cases ended
            case isFalse idle => cases ended; exact .refused (.finish (Bool.eq_false_iff.mpr sound) idle)
  | fail name =>
      by_cases loading : tracker.status name = .loading
      · simp only [apply, fail, if_pos loading]
        exact .failed loading
      · simp only [apply, fail, if_neg loading]
        exact .refused (.fail loading)
  | defer name blocker => exact .deferred
  | drop roots => exact .dropped
  | queued name => exact .queued
  | inspect => exact .inspected

theorem performs_of_apply {result : Result} (called : tracker.apply op = (next, result)) :
    tracker.Performs op next result := by
  have performs := tracker.performs op
  rwa [called] at performs

theorem exists_performs (tracker : Tracker) (op : Op) :
    ∃ next result, tracker.apply op = (next, result) ∧ tracker.Performs op next result :=
  ⟨_, _, rfl, tracker.performs op⟩

theorem applyAll_append (tracker : Tracker) (ops more : List Op) :
    tracker.applyAll (ops ++ more) = (tracker.applyAll ops).applyAll more :=
  List.foldl_append ..

/-- What every call keeps, a run of calls keeps. -/
theorem applyAll_induction {motive : Tracker → Prop} (ops : List Op) (first : motive tracker)
    (kept : ∀ (tracker : Tracker) (op : Op), motive tracker → motive (tracker.apply op).1) :
    motive (tracker.applyAll ops) := by
  induction ops generalizing tracker with
  | nil => exact first
  | cons op ops ih => exact ih (kept tracker op first)

def history (tracker : Tracker) : List Op → List (Op × Result)
  | [] => []
  | op :: ops => (op, (tracker.apply op).2) :: (tracker.apply op).1.history ops

def Tidy (tracker : Tracker) : Prop := ∀ row ∈ tracker.queues.entries, row.2 ≠ []

theorem Tidy.defer (tidy : tracker.Tidy) (name blocker : String) : (tracker.defer name blocker).1.Tidy := by
  unfold Tracker.defer
  split
  case isTrue => exact tidy
  case isFalse =>
    intro row member
    rcases Table.mem_put member with rfl | old
    · exact List.append_ne_nil_of_right_ne_nil _ (List.cons_ne_nil _ _)
    · exact tidy row old

theorem Tidy.drop (tidy : tracker.Tidy) (roots : List String) : (tracker.drop roots).1.Tidy := by
  intro row member
  rw [entries_drop] at member
  exact tidy row (List.mem_filter.mp member).1

theorem Tidy.finish {waiting : List String} (tidy : tracker.Tidy)
    (finished : tracker.finish name = .ok (next, waiting)) : next.Tidy := by
  obtain ⟨-, -, rfl, -⟩ := finish_eq_ok finished
  exact fun row member => tidy row (List.mem_filter.mp member).1

theorem Tidy.queues_eq_empty (tidy : tracker.Tidy) (unqueued : ∀ name, tracker.queue name = []) :
    tracker.queues = .empty := by
  obtain ⟨statuses, ⟨entries, distinct⟩, failed, loadOrder⟩ := tracker
  cases entries with
  | nil => rfl
  | cons row rows =>
      obtain ⟨name, waiting⟩ := row
      have first : waiting = [] := by
        have empty := unqueued name
        rwa [Tracker.queue, Table.get?, Table.lookup_row, if_pos rfl, Option.getD_some] at empty
      exact absurd first (tidy (name, waiting) (List.mem_cons_self ..))

def Distinct (tracker : Tracker) : Prop := ∀ blocker, (tracker.queue blocker).Nodup

theorem Distinct.defer (distinct : tracker.Distinct) (name blocker : String) :
    (tracker.defer name blocker).1.Distinct := by
  intro other
  rw [queue_defer]
  split
  case isTrue new =>
    refine List.nodup_append.mpr ⟨distinct blocker, by simp, ?_⟩
    rintro waiter queued _ arrival rfl
    exact new.2 (List.mem_singleton.mp arrival ▸ queued)
  case isFalse => exact distinct other

theorem Distinct.drop (distinct : tracker.Distinct) (roots : List String) :
    (tracker.drop roots).1.Distinct := by
  intro other
  by_cases behind : Behind tracker.queue roots other
  · rw [queue_drop_of_behind tracker roots other behind]
    exact .nil
  · rw [queue_drop_of_apart tracker roots other behind]
    exact distinct other

end Tracker

end DemandLoad
