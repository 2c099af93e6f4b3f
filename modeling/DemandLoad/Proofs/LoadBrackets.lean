import DemandLoad.Proofs.StepEvents

/-!
The journal as a record of the loads. The start of a load opens a bracket that its end closes, and inside it
only the target of that load acts.
-/

namespace DemandLoad

namespace Mark

def opens? : Mark → Option String
  | told (.loading name) => some name
  | _ => none

def closes? : Mark → Option String
  | told (.loaded name) | told (.failed name) => some name
  | _ => none

/-- The open loads after the mark, innermost first; `none` if the mark does not belong to the innermost load. -/
def nest (loads : List String) : Mark → Option (List String)
  | told (.loading name) => some (name :: loads)
  | told (.loaded name) | told (.failed name) => if loads.head? = some name then some loads.tail else none
  | acted name => if loads.head? = some name then some loads else none
  | told (.requested _) | told (.deferred _ _) | told (.resumed _) | told (.abandoned _ _) => some loads

theorem perm_of_nest {marks : List Mark} {loads left : List String} (nests : marks.foldlM nest loads = some left) :
    (loads ++ marks.filterMap opens?).Perm (left ++ marks.filterMap closes?) := by
  induction marks generalizing loads with
  | nil =>
      cases nests
      exact .refl _
  | cons mark marks ih =>
      rw [List.foldlM_cons, Option.bind_eq_bind, Option.bind_eq_some_iff] at nests
      obtain ⟨between, first, rest⟩ := nests
      have later := ih rest
      unfold nest at first
      split at first
      case h_1 name =>
        cases first
        exact List.perm_middle.trans later
      case h_2 name | h_3 name =>
        split at first
        case isTrue top =>
          cases first
          cases loads with
          | nil => cases top
          | cons head below =>
              cases top
              exact (later.cons name).trans List.perm_middle.symm
        case isFalse => cases first
      case h_4 name =>
        split at first <;> cases first
        exact later
      all_goals
        cases first
        exact later

end Mark

/-- The states of the libraries, as far as they follow from the marks. -/
structure Ledger where
  status : String → Status
  isFailed : String → Bool
  loaded : List String

namespace Ledger

def blank : Ledger := ⟨fun _ => .unloaded, fun _ => false, []⟩

def enter (ledger : Ledger) : Mark → Ledger
  | .told (.loading name) =>
    { ledger with status := fun other => if other = name then .loading else ledger.status other }
  | .told (.loaded name) =>
    { ledger with
      status := fun other => if other = name then .loaded else ledger.status other
      loaded := ledger.loaded ++ [name] }
  | .told (.failed name) => { ledger with isFailed := fun other => ledger.isFailed other || decide (other = name) }
  | _ => ledger

def replay (marks : List Mark) : Ledger := marks.foldl enter blank

theorem begun_enter {ledger : Ledger} {name : String} (begun : ledger.status name ≠ .unloaded) (mark : Mark) :
    (ledger.enter mark).status name ≠ .unloaded := by
  unfold enter
  split
  case h_1 | h_2 =>
    dsimp only
    split
    · simp
    · exact begun
  all_goals exact begun

theorem begun_of_opened {marks : List Mark} {name : String} (opened : name ∈ marks.filterMap Mark.opens?) :
    (replay marks).status name ≠ .unloaded := by
  obtain ⟨mark, member, opens⟩ := List.mem_filterMap.mp opened
  obtain ⟨before, after, rfl⟩ := List.append_of_mem member
  rw [replay, List.foldl_append, List.foldl_cons]
  have entered : ((before.foldl enter blank).enter mark).status name ≠ .unloaded := by
    unfold Mark.opens? at opens
    split at opens <;> cases opens
    simp [enter]
  generalize (before.foldl enter blank).enter mark = ledger at entered
  clear member opened
  induction after generalizing ledger with
  | nil => exact entered
  | cons mark after ih => exact ih _ (begun_enter entered mark)

end Ledger

namespace Tracker

def ledger (tracker : Tracker) : Ledger := ⟨tracker.status, tracker.isFailed, tracker.loadOrder⟩

theorem SameProgress.ledger {before after : Tracker} (same : before.SameProgress after) :
    after.ledger = before.ledger := by
  rw [Tracker.ledger, Tracker.ledger, funext same.status, funext same.isFailed, same.loadOrder]

variable (tracker : Tracker) (name : String)

theorem ledger_begun :
    (tracker.setStatus name .loading).ledger = tracker.ledger.enter (.told (.loading name)) :=
  congrArg (Ledger.mk · tracker.isFailed tracker.loadOrder)
    (funext fun other => status_setStatus tracker name other .loading)

theorem ledger_finished : (tracker.finished name).ledger = tracker.ledger.enter (.told (.loaded name)) :=
  congrArg (Ledger.mk · tracker.isFailed (tracker.loadOrder ++ [name]))
    (funext fun other => status_setStatus tracker name other .loaded)

theorem ledger_failing : (tracker.failing name).ledger = tracker.ledger.enter (.told (.failed name)) := by
  refine congrArg (Ledger.mk tracker.status · tracker.loadOrder) (funext fun other => ?_)
  simp [isFailed, failing, ledger]

end Tracker

def Loader.ledger (loader : Loader) : Ledger := loader.tracker.ledger

namespace Machine

variable {machine next : Machine} {mark : Mark} {news : List Mark} {name : String}

theorem Aside.nest (aside : machine.Aside mark) (loads : List String) : mark.nest loads = some loads := by
  cases aside <;> rfl

theorem Aside.enter (aside : machine.Aside mark) (ledger : Ledger) : ledger.enter mark = ledger := by
  cases aside <;> rfl

theorem Aside.opens? (aside : machine.Aside mark) : mark.opens? = none := by
  cases aside <;> rfl

section Asides

variable (asides : ∀ mark ∈ news, machine.Aside mark)
include asides

theorem nest_asides (loads : List String) : news.foldlM Mark.nest loads = some loads := by
  induction news with
  | nil => rfl
  | cons mark news ih =>
      obtain ⟨first, rest⟩ := List.forall_mem_cons.mp asides
      rw [List.foldlM_cons, first.nest]
      exact ih rest

theorem enter_asides (ledger : Ledger) : news.foldl Ledger.enter ledger = ledger := by
  induction news with
  | nil => rfl
  | cons mark news ih =>
      obtain ⟨first, rest⟩ := List.forall_mem_cons.mp asides
      rw [List.foldl_cons, first.enter]
      exact ih rest

theorem opens_asides : news.filterMap Mark.opens? = [] :=
  List.filterMap_eq_nil_iff.mpr fun mark member => (asides mark member).opens?

end Asides

/-- What a step emits opens and closes the loads of the running targets. -/
theorem Emits.nest (emits : machine.Emits next news) : news.foldlM Mark.nest machine.running = some next.running := by
  cases emits with
  | still asides asked running => rw [nest_asides asides, running]
  | acts library apart runs running =>
      rw [running, runs]
      simp [Mark.nest]
  | begins name target control running =>
      rw [running]
      cases target with
      | none => rfl
      | some target => cases target <;> simp [Loader.startMarks, Mark.nest]
  | ends name control ended running =>
      rw [running]
      simp [Mark.nest]
  | fails name apart failed asides running =>
      rw [running]
      simp [Mark.nest, nest_asides asides]

theorem enter_startMarks (name : String) (target : Option Target) (ledger : Ledger) :
    (Loader.startMarks name target).foldl Ledger.enter ledger = ledger := by
  unfold Loader.startMarks
  split <;> rfl

theorem Emits.replayed (active : machine.Active) (progress : Progress machine next)
    (emits : machine.Emits next news) : news.foldl Ledger.enter machine.loader.ledger = next.loader.ledger := by
  cases emits with
  | still asides asked running =>
      rw [enter_asides asides]
      exact (progress.same_of_running running).ledger.symm
  | acts library apart runs running => exact (progress.same_of_running running).ledger.symm
  | begins name target control running =>
      obtain ⟨-, same⟩ := progress.begun_of_running running
      rw [List.foldl_cons, enter_startMarks]
      exact (same.ledger.trans (Tracker.ledger_begun ..)).symm
  | ends name control ended running =>
      rcases progress.closed_of_running running with same | same
      · exact (same.ledger.trans (Tracker.ledger_finished ..)).symm
      · -- A load that has failed has not ended.
        have loading := ((active.mem_running name).mp (running ▸ List.mem_cons_self ..)).1
        cases ended.symm.trans ((same.status name).trans loading)
  | fails name apart failed asides running =>
      have sound := ((active.mem_running name).mp (running ▸ List.mem_cons_self ..)).2
      rcases progress.closed_of_running running with same | same
      · cases failed.symm.trans ((same.isFailed name).trans sound)
      · rw [List.foldl_cons, List.foldl_cons, enter_asides asides]
        exact (same.ledger.trans (Tracker.ledger_failing ..)).symm

theorem Emits.opened (progress : Progress machine next) (emits : machine.Emits next news) :
    news.filterMap Mark.opens? = [] ∨
      ∃ name, news.filterMap Mark.opens? = [name] ∧ machine.loader.status name = .unloaded ∧
        machine.control = .walk name [] := by
  cases emits with
  | still asides => exact .inl (opens_asides asides)
  | acts | ends => exact .inl rfl
  | fails name apart failed asides running =>
      rw [List.filterMap_cons_none rfl, List.filterMap_cons_none rfl]
      exact .inl (opens_asides asides)
  | begins name target control running =>
      refine .inr ⟨name, ?_, (progress.begun_of_running running).1, control⟩
      cases target with
      | none => rfl
      | some target => cases target <;> rfl

end Machine

end DemandLoad
