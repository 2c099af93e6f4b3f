import DemandLoad.Proofs.JournalObservation
import DemandLoad.Proofs.SealedLibraries
import Mathlib.Data.List.Nodup
import Mathlib.Logic.Relation

namespace DemandLoad

/-- A transition that a pass announces. `drain` is the library whose queue the step resumes a request from. -/
structure Notice where
  transition : Transition
  drain : Option String
  deriving DecidableEq, Repr

namespace Notice

def Defers (notice : Notice) (waiter : Waiter) : Prop :=
  notice.transition = .deferred waiter.library waiter.blocker ∧ waiter.library ≠ waiter.blocker

def Resumes (notice : Notice) (waiter : Waiter) : Prop :=
  notice.transition = .resumed waiter.library ∧ notice.drain = some waiter.blocker

/-- The request does not wait for the blocker any longer. -/
def Closes (notice : Notice) (waiter : Waiter) : Prop :=
  notice.Resumes waiter ∨ notice.transition = .abandoned waiter.library waiter.blocker

variable {transition : Transition} {drain : Option String} {waiter : Waiter}

theorem not_defers_of_plain (plain : transition.Plain drain) : ¬ Defers ⟨transition, drain⟩ waiter := by
  rintro ⟨rfl, -⟩
  exact plain

theorem not_closes_of_plain (plain : transition.Plain drain) : ¬ Closes ⟨transition, drain⟩ waiter := by
  rintro (⟨rfl, drains⟩ | rfl)
  · cases drains.symm.trans plain
  · exact plain

end Notice

/-- How a notice changes the waiting line of a library. -/
inductive Serves (blocker : String) (notice : Notice) : List String → List String → Prop
  | joins {line : List String} {name : String} (defers : notice.Defers ⟨name, blocker⟩) (new : name ∉ line) :
      Serves blocker notice line (line ++ [name])
  | leaves {line : List String} {name : String} (abandons : notice.transition = .abandoned name blocker)
      (waits : name ∈ line) : Serves blocker notice line (line.filter (· ≠ name))
  | resumes {line : List String} {name : String} (resumes : notice.Resumes ⟨name, blocker⟩) :
      Serves blocker notice (name :: line) line
  | passes {line : List String}
      (apart : ∀ name, ¬ notice.Defers ⟨name, blocker⟩ ∧ ¬ notice.Closes ⟨name, blocker⟩) :
      Serves blocker notice line line

inductive Replays (blocker : String) (start : List String) : List Notice → List String → Prop
  | nil : Replays blocker start [] start
  | concat {notices : List Notice} {notice : Notice} {line next : List String}
      (replays : Replays blocker start notices line) (serves : Serves blocker notice line next) :
      Replays blocker start (notices ++ [notice]) next

namespace Replays

variable {blocker : String} {first second third : List String} {notices more : List Notice}

theorem trans (before : Replays blocker first notices second) (after : Replays blocker second more third) :
    Replays blocker first (notices ++ more) third := by
  induction after with
  | nil => rwa [List.append_nil]
  | concat _ serves ih =>
      rw [← List.append_assoc]
      exact ih.concat serves

theorem cons {notice : Notice} (serves : Serves blocker notice first second)
    (after : Replays blocker second notices third) : Replays blocker first (notice :: notices) third :=
  (Replays.nil.concat serves).trans after

theorem of_plain {news : List Transition} {drain : Option String}
    (plain : ∀ transition ∈ news, transition.Plain drain) (line : List String) :
    Replays blocker line (news.map (⟨·, drain⟩)) line := by
  induction news with
  | nil => exact .nil
  | cons transition news ih =>
      have first := plain transition (List.mem_cons_self ..)
      refine cons (.passes ?_) (ih fun other member => plain other (List.mem_cons_of_mem _ member))
      exact fun name => ⟨Notice.not_defers_of_plain first, Notice.not_closes_of_plain first⟩

theorem of_dropped (dropped : List Waiter) (drain : Option String) {line : List String}
    (nodup : (Waiter.behind blocker dropped).Nodup) (within : Waiter.behind blocker dropped ⊆ line) :
    Replays blocker line ((dropped.map Waiter.abandoned).map (⟨·, drain⟩))
      (line.filter (· ∉ Waiter.behind blocker dropped)) := by
  induction dropped generalizing line with
  | nil =>
      have whole : line.filter (· ∉ Waiter.behind blocker []) = line := by simp [Waiter.behind]
      rw [whole]
      exact .nil
  | cons waiter dropped ih =>
      obtain ⟨library, other⟩ := waiter
      by_cases same : other = blocker
      · subst same
        have split : Waiter.behind other (⟨library, other⟩ :: dropped) =
            library :: Waiter.behind other dropped := by simp [Waiter.behind]
        rw [split] at nodup within ⊢
        obtain ⟨absent, distinct⟩ := List.nodup_cons.mp nodup
        have later : Waiter.behind other dropped ⊆ line.filter (· ≠ library) := by
          intro name member
          refine List.mem_filter.mpr ⟨within (List.mem_cons_of_mem _ member), ?_⟩
          have apart : name ≠ library := by
            rintro rfl
            exact absent member
          simpa using apart
        have filtered : line.filter (· ∉ library :: Waiter.behind other dropped) =
            (line.filter (· ≠ library)).filter (· ∉ Waiter.behind other dropped) := by
          rw [List.filter_filter]
          refine List.filter_congr fun name _ => ?_
          simp [Bool.and_comm]
        rw [filtered]
        exact cons (.leaves rfl (within (List.mem_cons_self ..))) (ih distinct later)
      · have split : Waiter.behind blocker (⟨library, other⟩ :: dropped) = Waiter.behind blocker dropped := by
          simp [Waiter.behind, same]
        rw [split] at nodup within ⊢
        refine cons (.passes fun name => ⟨?_, ?_⟩) (ih nodup within)
        · rintro ⟨told, -⟩
          cases told
        · rintro (⟨told, -⟩ | told)
          · cases told
          · cases told
            exact same rfl

end Replays

namespace Machine

variable {machine next : Machine} {name blocker : String}

def notices (machine next : Machine) : List Notice :=
  (next.loader.transitions.drop machine.loader.transitions.length).map (⟨·, machine.drain?⟩)

def line (machine : Machine) (blocker : String) : List String :=
  machine.drains blocker ++ (machine.loader.tracker.queue blocker).filter (· ≠ blocker)

theorem notices_eq {news : List Transition} (tells : machine.loader.Tells next.loader news)
    (traced : machine.loader.config.traced = true) :
    machine.notices next = news.map (⟨·, machine.drain?⟩) := by
  rw [notices, tells.transitions, traced, if_pos rfl, List.drop_left]

theorem line_of_same (queue : next.loader.tracker.queue blocker = machine.loader.tracker.queue blocker)
    (drains : next.drains = machine.drains) : next.line blocker = machine.line blocker := by
  rw [line, queue, drains, line]

theorem Sound.loaded_of_drains (sound : machine.Sound) (waits : name ∈ machine.drains blocker) :
    machine.loader.status blocker = .loaded := by
  rcases List.mem_append.mp waits with top | below
  · cases control : machine.control with
    | resume library waiting =>
        rw [control] at top
        simp only [Control.drains] at top
        split at top
        case isTrue same => exact same ▸ sound.resumed library waiting control
        case isFalse => cases top
    | drive | walk | perform | sweep | settle | answered | done =>
        rw [control] at top
        cases top
  · obtain ⟨frame, member, inside⟩ := List.mem_flatMap.mp below
    cases frame with
    | resuming library rest =>
        simp only [Frame.drains] at inside
        split at inside
        case isTrue same => exact same ▸ sound.resuming library rest member
        case isFalse => cases inside
    | walking | requesting | sweeping | settling => cases inside

theorem Sound.drains_eq_nil (sound : machine.Sound) (waits : machine.loader.status blocker ≠ .loaded) :
    machine.drains blocker = [] :=
  List.eq_nil_iff_forall_not_mem.mpr fun _ member => waits (sound.loaded_of_drains member)

section Dealt

variable {drain : Option String} {others : List Transition}

theorem Sound.replays_joined {waiter other : String} (sound : machine.Sound)
    (plain : ∀ transition ∈ others, transition.Plain drain)
    (waits : machine.loader.status other ≠ .loaded)
    (queue : next.loader.tracker.queue = (machine.loader.tracker.defer waiter other).1.queue)
    (drains : next.drains = machine.drains) (blocker : String) :
    Replays blocker (machine.line blocker)
      ((others ++ if (machine.loader.tracker.defer waiter other).2 then [Transition.deferred waiter other]
        else []).map (⟨·, drain⟩))
      (next.line blocker) := by
  rw [List.map_append]
  refine (Replays.of_plain plain _).trans ?_
  rw [Tracker.new_defer]
  have row : next.loader.tracker.queue blocker = _ :=
    (congrFun queue blocker).trans (Tracker.queue_defer ..)
  by_cases old : waiter ∈ machine.loader.tracker.queue other
  · simp only [old, not_true_eq_false, and_false, if_false] at row
    simp only [old, not_true_eq_false, decide_false, Bool.false_eq_true, if_false, List.map_nil]
    exact line_of_same row drains ▸ .nil
  · simp only [old, not_false_eq_true, and_true] at row
    simp only [old, not_false_eq_true, decide_true, if_true, List.map_cons, List.map_nil]
    by_cases joins : other = blocker ∧ waiter ≠ blocker
    · obtain ⟨rfl, apart⟩ := joins
      have longer : next.line other = machine.line other ++ [waiter] := by
        rw [line, row, if_pos rfl, drains, List.filter_append, line, List.append_assoc]
        simp [apart]
      rw [longer]
      refine Replays.nil.concat (.joins ⟨rfl, apart⟩ ?_)
      rw [line, sound.drains_eq_nil waits]
      exact fun member => old (List.mem_filter.mp member).1
    · have same : next.line blocker = machine.line blocker := by
        by_cases equal : blocker = other
        · have itself : waiter = blocker := Classical.byContradiction fun apart => joins ⟨equal.symm, apart⟩
          rw [line, row, if_pos equal, drains, ← equal, line]
          simp [itself]
        · exact line_of_same (row.trans (if_neg equal)) drains
      rw [same]
      refine Replays.nil.concat (.passes fun name => ⟨?_, ?_⟩)
      · rintro ⟨told, apart⟩
        cases told
        exact joins ⟨rfl, apart⟩
      · rintro (⟨told, -⟩ | told) <;> cases told

theorem Sound.replays_dropped {roots : List String} (sound : machine.Sound)
    (single : Tracker.Single machine.loader.tracker.queue)
    (rooted : ∀ root ∈ roots, ∀ blocker, Behind machine.loader.tracker.queue roots blocker →
      root ∈ machine.loader.tracker.queue blocker → root = blocker)
    (plain : ∀ transition ∈ others, transition.Plain drain)
    (queue : next.loader.tracker.queue = (machine.loader.tracker.drop roots).1.queue)
    (drains : next.drains = machine.drains) (blocker : String) :
    Replays blocker (machine.line blocker)
      ((others ++ (machine.loader.tracker.drop roots).2.map Waiter.abandoned).map (⟨·, drain⟩))
      (next.line blocker) := by
  rw [List.map_append]
  refine (Replays.of_plain plain _).trans ?_
  have dropped := Tracker.behind_drop_of_roots machine.loader.tracker roots single rooted blocker
  have left : next.line blocker =
      (machine.line blocker).filter (· ∉ Waiter.behind blocker (machine.loader.tracker.drop roots).2) := by
    by_cases behind : Behind machine.loader.tracker.queue roots blocker
    · rw [if_pos behind] at dropped
      rw [line, drains, queue, Tracker.queue_drop_of_behind _ _ _ behind, dropped, line, List.filter_append]
      have alone : (machine.drains blocker).filter
          (· ∉ (machine.loader.tracker.queue blocker).filter (· ≠ blocker)) = machine.drains blocker := by
        refine List.filter_eq_self.mpr fun name member => ?_
        rw [sound.drained blocker (sound.loaded_of_drains member)]
        rfl
      have gone : ((machine.loader.tracker.queue blocker).filter (· ≠ blocker)).filter
          (· ∉ (machine.loader.tracker.queue blocker).filter (· ≠ blocker)) = [] :=
        List.filter_eq_nil_iff.mpr fun name member absent => of_decide_eq_true absent member
      rw [alone, gone]
      rfl
    · rw [if_neg behind] at dropped
      have same := Tracker.queue_drop_of_apart _ _ _ behind
      rw [line_of_same ((congrFun queue blocker).trans same) drains, dropped]
      simp
  rw [left]
  refine Replays.of_dropped _ drain ?_ ?_
  · rw [dropped]
    split
    · exact (single.nodup blocker).filter _
    · exact .nil
  · rw [dropped]
    split
    · exact List.subset_append_right ..
    · exact List.nil_subset _

theorem Sound.replays_loaded (sound : machine.Sound) (loading : machine.loader.status name = .loading)
    (queue : ∀ blocker, next.loader.tracker.queue blocker =
      if blocker = name then [] else machine.loader.tracker.queue blocker)
    (drains : ∀ blocker, next.drains blocker =
      (if name = blocker then (machine.loader.tracker.queue name).filter (· ≠ name) else []) ++
        machine.drains blocker) (blocker : String) :
    Replays blocker (machine.line blocker) [⟨.loaded name, drain⟩] (next.line blocker) := by
  have same : next.line blocker = machine.line blocker := by
    rw [line, queue, drains, line]
    by_cases equal : name = blocker
    · subst equal
      have none_yet : machine.drains name = [] := sound.drains_eq_nil (by simp [loading])
      simp [none_yet]
    · rw [if_neg equal, if_neg (Ne.symm equal), List.nil_append]
  rw [same]
  refine Replays.nil.concat (.passes fun waiter => ⟨?_, ?_⟩)
  · rintro ⟨told, -⟩
    cases told
  · rintro (⟨told, -⟩ | told) <;> cases told

theorem replays_resumed {library : String}
    (queue : next.loader.tracker.queue = machine.loader.tracker.queue)
    (drains : ∀ blocker, machine.drains blocker = (if library = blocker then [name] else []) ++ next.drains blocker)
    (blocker : String) :
    Replays blocker (machine.line blocker) [⟨.resumed name, some library⟩] (next.line blocker) := by
  by_cases same : library = blocker
  · have first : machine.line blocker = name :: next.line blocker := by
      rw [line, drains, if_pos same, line, queue]
      rfl
    rw [first]
    exact Replays.nil.concat (.resumes ⟨rfl, congrArg some same⟩)
  · have unmoved : machine.line blocker = next.line blocker := by
      rw [line, drains, if_neg same, line, queue]
      rfl
    rw [unmoved]
    refine Replays.nil.concat (.passes fun waiter => ⟨?_, ?_⟩)
    · rintro ⟨told, -⟩
      cases told
    · rintro (⟨-, drained⟩ | told)
      · exact same (Option.some.inj drained)
      · cases told

end Dealt

end Machine

namespace Pass

variable {pass : Pass} {name blocker : String} {count : Nat}

def notices (pass : Pass) (count : Nat) : List Notice :=
  (List.range count).flatMap fun moment => (pass.state moment).notices (pass.state (moment + 1))

theorem notices_succ (pass : Pass) (count : Nat) : pass.notices (count + 1) =
    pass.notices count ++ (pass.state count).notices (pass.state (count + 1)) := by
  simp [notices, List.range_succ]

theorem notices_of_rest (same : pass.state (count + 1) = pass.state count) :
    pass.notices (count + 1) = pass.notices count := by
  rw [notices_succ, same, Machine.notices, List.drop_length, List.map_nil, List.append_nil]

theorem tells_start (pass : Pass) : pass.loader.Tells (pass.state 0).loader [] := by
  obtain ⟨loader, reachable, action⟩ := pass
  cases action with
  | register => exact Loader.tells_declare ..
  | request | requestAll | fail | query => exact .refl _

theorem config_eq (pass : Pass) (count : Nat) : (pass.state count).loader.config = pass.loader.config :=
  (pass.grows_since_start count).config

theorem transitions_eq (pass : Pass) (count : Nat) : (pass.state count).loader.transitions =
    pass.loader.transitions ++ (pass.notices count).map Notice.transition := by
  induction count with
  | zero =>
      have started := pass.tells_start.transitions
      simpa [notices] using started
  | succ count ih =>
      rcases pass.state_cases count with same | step
      · rw [notices_of_rest same, same, ih]
      · obtain ⟨news, tells, -⟩ := step.deals (pass.sound count).active
        have added : ∀ more : List Transition,
            (((pass.state count).loader.transitions ++ more).drop (pass.state count).loader.transitions.length) =
              more := fun more => List.drop_left
        rw [notices_succ, List.map_append, ← List.append_assoc, ← ih, Machine.notices, tells.transitions, added,
          List.map_map]
        simp [Function.comp_def]

theorem DeclaresOnce.eq_of_culprit (once : pass.DeclaresOnce) (founded : pass.loader.Founded) {culprit : String}
    (behind : Behind (pass.state count).loader.tracker.queue [culprit] blocker)
    (queued : culprit ∈ (pass.state count).loader.tracker.queue blocker) : culprit = blocker := by
  have leads : Relation.ReflTransGen (pass.state count).loader.tracker.WaitsOn blocker culprit := by
    refine behind.closed (motive := fun name =>
      Relation.ReflTransGen (pass.state count).loader.tracker.WaitsOn name culprit) ?_ ?_
    · intro root member
      rw [List.mem_singleton.mp member]
    · intro further waiter waits onward
      by_cases same : waiter = further
      · exact same ▸ onward
      · exact .head ⟨waits, same⟩ onward
  apply Classical.byContradiction
  intro apart
  exact once.acyclic founded count culprit (.head' ⟨queued, apart⟩ leads)

theorem DeclaresOnce.replays_step (once : pass.DeclaresOnce) (founded : pass.loader.Founded)
    (traced : pass.loader.config.traced = true)
    (step : Machine.Step (pass.state count) (pass.state (count + 1))) (blocker : String) :
    Replays blocker ((pass.state count).line blocker) ((pass.state count).notices (pass.state (count + 1)))
      ((pass.state (count + 1)).line blocker) := by
  have sound := pass.sound count
  have single := once.single founded count
  obtain ⟨news, tells, dealt⟩ := step.deals sound.active
  rw [Machine.notices_eq tells (by rw [pass.config_eq, traced])]
  cases dealt with
  | quiet plain queue drains =>
      rw [Machine.line_of_same (congrFun queue blocker) drains]
      exact .of_plain plain _
  | joined waiter other plain reason queue drains =>
      obtain ⟨_, _, reason⟩ := reason
      exact sound.replays_joined plain reason.not_loaded queue drains blocker
  | loaded ended loading _ queue drains => exact sound.replays_loaded loading queue drains blocker
  | resumed library waiter drain queue drains =>
      rw [drain]
      exact Machine.replays_resumed queue drains blocker
  | dropped others roots plain rooted queue drains =>
      refine sound.replays_dropped single ?_ plain queue drains blocker
      intro root member further behind queued
      rcases rooted with ⟨culprit, rfl, -⟩ | ⟨rfl, -⟩
      · cases List.mem_singleton.mp member
        exact once.eq_of_culprit founded behind queued
      · apply Classical.byContradiction
        intro apart
        exact (once.resolved founded count root (.waits further ⟨queued, apart⟩)).2 member

/-- The notices of a pass determine the waiting lines. -/
theorem DeclaresOnce.replays (once : pass.DeclaresOnce) (founded : pass.loader.Founded)
    (traced : pass.loader.config.traced = true) (count : Nat) (blocker : String) :
    Replays blocker [] (pass.notices count) ((pass.state count).line blocker) := by
  induction count with
  | zero =>
      have empty : (pass.state 0).line blocker = [] := by
        rw [Machine.line, pass.queue_zero]
        obtain ⟨loader, reachable, action⟩ := pass
        cases action <;> rfl
      rw [empty]
      exact .nil
  | succ count ih =>
      rcases pass.state_cases count with same | step
      · rw [notices_of_rest same, same]
        exact ih
      · rw [notices_succ]
        exact ih.trans (once.replays_step founded traced step blocker)

theorem line_of_done {answer : Answer} (control : (pass.state count).control = .done answer) (blocker : String) :
    (pass.state count).line blocker = [] := by
  have sound := pass.sound count
  have frames : (pass.state count).frames = [] := sound.stacked.bottom (by rw [control]; trivial)
  have resting := (pass.reachable.perform pass.action).resting
  rw [perform_of_done control] at resting
  rw [Machine.line, Machine.drains, control, frames, resting.queue]
  rfl

end Pass

end DemandLoad
