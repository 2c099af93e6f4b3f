import DemandLoad.Proofs.MachineSoundness

namespace DemandLoad

inductive Outlet where
  | log
  | observer
  deriving DecidableEq, Repr

/-- What an outlet gets: a transition, the start of a program, or an action performed by one. -/
inductive Mark where
  | told (transition : Transition)
  | acted (library : String)
  deriving DecidableEq, Repr

def Mark.isAct : Mark → Bool
  | acted _ => true
  | told _ => false

def Mark.told? : Mark → Option Transition
  | told transition => some transition
  | acted _ => none

def Event.mark? : Outlet → Event → Option Mark
  | .log, .logged (.announced transition) | .observer, .observed transition => some (.told transition)
  | _, .started library | _, .performed library _ _ => some (.acted library)
  | _, .logged _ | _, .observed _ => none

def Waiter.abandoned (waiter : Waiter) : Transition := .abandoned waiter.library waiter.blocker

def Mark.abandoned (dropped : List Waiter) : List Mark := dropped.map fun waiter => .told waiter.abandoned

namespace Loader

variable {outlet : Outlet}

def hears (loader : Loader) : Outlet → Bool
  | .log => loader.config.traced
  | .observer => loader.config.traced && loader.observed

def heard (loader : Loader) (outlet : Outlet) (news : List Mark) : List Mark :=
  if loader.hears outlet then news else news.filter Mark.isAct

def marks (outlet : Outlet) (loader : Loader) : List Mark := loader.journal.filterMap (Event.mark? outlet)

/-- The journal of the later loader has these marks beyond the earlier one, as far as the outlet gets them. -/
structure Adds (outlet : Outlet) (before after : Loader) (news : List Mark) : Prop where
  config : after.config = before.config
  observed : after.observed = before.observed
  marks : after.marks outlet = before.marks outlet ++ before.heard outlet news

theorem heard_append (loader : Loader) (outlet : Outlet) (news more : List Mark) :
    loader.heard outlet (news ++ more) = loader.heard outlet news ++ loader.heard outlet more := by
  unfold heard
  split
  · rfl
  · exact List.filter_append ..

theorem heard_subset (loader : Loader) (outlet : Outlet) (news : List Mark) :
    loader.heard outlet news ⊆ news := by
  unfold heard
  split
  · exact List.Subset.refl _
  · exact fun _ member => (List.mem_filter.mp member).1

namespace Adds

variable {first second third : Loader} {news more : List Mark}

theorem of_journal (config : second.config = first.config) (observed : second.observed = first.observed)
    (journal : second.journal = first.journal) : first.Adds outlet second [] :=
  ⟨config, observed, by simp [Loader.marks, heard, journal]⟩

theorem refl (loader : Loader) : loader.Adds outlet loader [] := .of_journal rfl rfl rfl

theorem hears_eq (adds : first.Adds outlet second news) : second.hears outlet = first.hears outlet := by
  cases outlet <;> simp only [hears, adds.config, adds.observed]

theorem trans (before : first.Adds outlet second news) (after : second.Adds outlet third more) :
    first.Adds outlet third (news ++ more) := by
  have same : second.heard outlet more = first.heard outlet more := by rw [heard, before.hears_eq, heard]
  refine ⟨after.config.trans before.config, after.observed.trans before.observed, ?_⟩
  rw [after.marks, before.marks, same, heard_append, List.append_assoc]

theorem after (later : second.Adds outlet third news) (silent : first.Adds outlet second []) :
    first.Adds outlet third news := silent.trans later

theorem before (earlier : first.Adds outlet second news) (silent : second.Adds outlet third []) :
    first.Adds outlet third news := List.append_nil news ▸ earlier.trans silent

end Adds

variable (loader : Loader)

theorem adds_note (event : Event) (silent : event.mark? outlet = none) :
    loader.Adds outlet (loader.note event) [] :=
  ⟨rfl, rfl, by simp [marks, note, heard, silent]⟩

theorem adds_act (event : Event) (library : String) (act : event.mark? outlet = some (.acted library)) :
    loader.Adds outlet (loader.note event) [.acted library] := by
  have shows : loader.heard outlet [.acted library] = [.acted library] := ite_self _
  exact ⟨rfl, rfl, by simp [marks, note, shows, act]⟩

theorem adds_performed (library : String) (action : Action) (answer : Answer) :
    loader.Adds outlet (loader.note (.performed library action answer)) [.acted library] :=
  adds_act _ _ library (by cases outlet <;> rfl)

theorem mark_announcement (transition : Transition) :
    (loader.announcement transition).filterMap (Event.mark? outlet) = loader.heard outlet [.told transition] := by
  unfold announcement heard
  cases outlet <;> cases traced : loader.config.traced <;> cases observed : loader.observed <;>
    simp only [hears, traced, observed] <;> rfl

theorem adds_announce (transition : Transition) :
    loader.Adds outlet (loader.announce transition) [.told transition] :=
  ⟨rfl, rfl, by rw [marks, announce, List.filterMap_append, mark_announcement]; rfl⟩

theorem adds_announceAbandoned (dropped : List Waiter) : loader.Adds outlet (loader.announceAbandoned dropped)
    (Mark.abandoned dropped) := by
  refine ⟨rfl, rfl, ?_⟩
  rw [marks, announceAbandoned, List.filterMap_append, List.filterMap_flatMap]
  congr 1
  induction dropped with
  | nil => simp [heard, Mark.abandoned]
  | cons waiter dropped ih =>
      rw [List.flatMap_cons, ih, mark_announcement, ← heard_append]
      rfl

theorem adds_defer (name blocker : String) : loader.Adds outlet (loader.defer name blocker)
    (if (loader.tracker.defer name blocker).2 then [.told (.deferred name blocker)] else []) := by
  have moved : ∀ tracker, loader.Adds outlet { loader with tracker } [] := fun _ => .of_journal rfl rfl rfl
  simp only [defer]
  split
  · exact (adds_announce ..).after (moved _)
  · exact moved _

theorem adds_dropBehind (name : String) : loader.Adds outlet (loader.dropBehind name)
    (Mark.abandoned (loader.tracker.drop [name]).2) :=
  (adds_announceAbandoned { loader with tracker := (loader.tracker.drop [name]).1 } _).after
    (.of_journal rfl rfl rfl)

theorem adds_forget (name : String) : loader.Adds outlet (loader.forget name) [] := .of_journal rfl rfl rfl

theorem adds_remember (name : String) : loader.Adds outlet (loader.remember name) [] := by
  unfold remember
  split
  · exact .refl _
  · exact .of_journal rfl rfl rfl

theorem adds_orphan (result : Except LoadError Outcome) : loader.Adds outlet (loader.orphan result) [] := by
  cases result with
  | ok outcome => exact .refl _
  | error error =>
      simp only [orphan]
      split
      · exact .refl _
      · exact .of_journal rfl rfl rfl

theorem adds_declare (name : String) (dependencies : List String) (target : Target) :
    loader.Adds outlet (loader.declare name dependencies target) [] := by
  have declared : loader.Adds outlet
      { loader with registry := loader.registry.insert (.declare name target dependencies) } [] :=
    .of_journal rfl rfl rfl
  unfold declare
  repeat' split
  all_goals first | exact declared | exact declared.before (adds_note _ _ (by cases outlet <;> rfl))

def startMarks (name : String) : Option Target → List Mark
  | some (.program _) => [.acted name]
  | some .noop | none => []

theorem eq_of_mem_startMarks {name : String} {target : Option Target} {mark : Mark}
    (member : mark ∈ startMarks name target) : mark = .acted name := by
  unfold startMarks at member
  split at member
  · exact List.mem_singleton.mp member
  · cases member
  · cases member

theorem told_not_mem_startMarks (name : String) (target : Option Target) (transition : Transition) :
    .told transition ∉ startMarks name target := by
  intro member
  cases eq_of_mem_startMarks member

theorem adds_noteTarget (name : String) (target : Option Target) :
    loader.Adds outlet (loader.noteTarget name target) (startMarks name target) := by
  cases target with
  | none => exact adds_note _ _ (by cases outlet <;> rfl)
  | some target =>
      cases target with
      | noop => exact .refl _
      | program actions => exact adds_act _ _ name (by cases outlet <;> rfl)

theorem adds_beginLoad (name : String) (registry : Registry Target) :
    loader.Adds outlet (loader.beginLoad name registry) [.told (.loading name)] :=
  (adds_announce ..).after (.of_journal rfl rfl rfl)

theorem adds_endLoad (name : String) (tracker : Tracker) :
    loader.Adds outlet (loader.endLoad name tracker) [.told (.loaded name)] :=
  (adds_announce { loader with tracker } _).after (.of_journal rfl rfl rfl)

theorem adds_failTarget (name cause : String) (loading : loader.status name = .loading)
    (sound : loader.isFailed name = false) : loader.Adds outlet (loader.failTarget name cause).1
      (.told (.failed name) :: Mark.abandoned (loader.tracker.drop [name]).2) := by
  unfold failTarget
  rw [Tracker.fail_eq_ok loading sound]
  have moved : loader.Adds outlet { loader with tracker := ((loader.tracker.failing name).drop [name]).1 } [] :=
    .of_journal rfl rfl rfl
  have noted := moved.before (adds_note _
    (.logged (.targetFailed ⟨name, cause⟩ ((loader.tracker.failing name).drop [name]).2.length))
    (by cases outlet <;> rfl))
  have announced := (noted.trans (adds_announce _ (.failed name))).trans
    (adds_announceAbandoned _ ((loader.tracker.failing name).drop [name]).2)
  exact announced.before (.of_journal rfl rfl rfl)

theorem adds_giveUpUnresolved : loader.Adds outlet loader.giveUpUnresolved.1
    (Mark.abandoned (loader.tracker.drop loader.unresolved).2) := by
  unfold giveUpUnresolved
  split
  case h_1 none_left =>
    simp only [none_left, Tracker.drop, Tracker.dropFrom]
    exact .refl _
  case h_2 first others some_left =>
    rw [some_left]
    refine Adds.before ?_ (adds_note _ _ (by cases outlet <;> rfl))
    exact (adds_announceAbandoned ..).after (.of_journal rfl rfl rfl)

end Loader

end DemandLoad
