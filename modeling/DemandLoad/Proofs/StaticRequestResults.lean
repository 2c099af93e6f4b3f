import DemandLoad.Proofs.StaticRequestSteps

namespace DemandLoad

theorem Action.Passive.silent (action : Action) (passive : action.Passive) : ¬ action.Declares := by
  cases action with
  | register => cases passive
  | request | requestAll | fail | query => exact id

theorem Action.Passive.hereditary : Hereditary Action.Passive := hereditary_of_silent Action.Passive.silent

namespace Loader

variable {loader : Loader} {name blocker dependency : String} {past rest : List String}

theorem contains_of_dependency (member : dependency ∈ loader.dependencies name) :
    loader.registry.contains name = true := by
  rw [Registry.contains_eq]
  cases known : loader.registry.lookup? name with
  | some record => rfl
  | none => simp [dependencies, Registry.dependencies?, known] at member

theorem eq_or_mem_of_blocked (blocked : loader.firstBlocker? name = some blocker)
    (split : loader.dependencies name = past ++ dependency :: rest)
    (waits : loader.status dependency ≠ .loaded) : blocker = dependency ∨ blocker ∈ past := by
  rw [firstBlocker?, split, List.find?_append] at blocked
  cases found : past.find? fun other => loader.status other ≠ .loaded with
  | some other =>
      rw [found] at blocked
      cases blocked
      exact .inr (List.mem_of_find?_eq_some found)
  | none =>
      rw [found, Option.none_or, List.find?_cons_of_pos (by simpa using waits)] at blocked
      exact .inl (Option.some.inj blocked).symm

end Loader

namespace Machine

variable {machine : Machine} {origin : Loader} {goal name : String} {asked : List String}

/-- The state after a request has returned: of every library it requested, why it is not loaded. -/
structure Answered (origin : Loader) (goal : String) (asked : List String) (machine : Machine) : Prop where
  static : machine.Static origin
  resting : origin.Resting
  still : machine.running = []
  loaded : ∀ name, origin.status name = .loaded → machine.loader.status name = .loaded
  failed : ∀ name, origin.isFailed name = true → machine.loader.isFailed name = true
  begun : ∀ name, origin.status name = .unloaded → machine.loader.status name ≠ .unloaded → name ∈ asked
  explored : origin.Explored goal asked machine.loader
  explained : ∀ name ∈ asked, machine.loader.status name = .loaded ∨ machine.loader.Explained asked name
  asks : goal ∈ asked

variable (answered : machine.Answered origin goal asked)
include answered

theorem Answered.not_loadable (failed : machine.loader.isFailed name = true) : ¬ origin.Loadable name := by
  intro loadable
  rcases answered.explored.failed name failed with before | fails
  · exact loadable.status_ne ((answered.resting.failed_iff name).mp before)
  · exact fails.not_loadable loadable

theorem Answered.loaded_of_asked (loadable : origin.Loadable name) (asks : name ∈ asked) :
    machine.loader.status name = .loaded := by
  induction loadable with
  | loaded loaded => exact answered.loaded _ loaded
  | @loads name record idle known succeeds dependencies ih =>
      rcases answered.explained name asks with loaded | failed | ⟨-, unknown | ⟨blocker, blocked, culprit⟩⟩
      · exact loaded
      · exact absurd (.loads idle known succeeds dependencies) (answered.not_loadable failed)
      · rw [answered.static.contains, Registry.contains_eq, known] at unknown
        cases unknown
      · obtain ⟨waits, past, rest, split, -⟩ := Loader.firstBlocker?_eq_some.mp blocked
        rw [answered.static.dependencies] at split
        have member : blocker ∈ origin.dependencies name := by simp [split]
        rcases culprit with asks | failed
        · exact absurd (ih blocker member asks) waits
        · exact absurd (dependencies blocker member) (answered.not_loadable failed)

theorem Answered.asked_of_attempted (attempted : origin.Attempted (· = goal) name) :
    name ∈ asked ∨ machine.loader.status name ≠ .unloaded := by
  induction attempted with
  | asked asks => exact .inl (asks ▸ answered.asks)
  | @next name dependency past rest attempted idle split loadable ih =>
      have member : dependency ∈ origin.dependencies name := by simp [split]
      by_cases begun : machine.loader.status name = .unloaded
      · have asks := ih.resolve_right (fun other => other begun)
        rcases answered.explained name asks with loaded | failed | ⟨-, unknown | ⟨blocker, blocked, culprit⟩⟩
        · cases loaded.symm.trans begun
        · cases (answered.static.sound.active.loading_of_failed name failed).symm.trans begun
        · rw [answered.static.contains, Loader.contains_of_dependency member] at unknown
          cases unknown
        · by_cases waits : machine.loader.status dependency = .loaded
          · exact .inr (by simp [waits])
          have present := (answered.static.dependencies name).trans split
          rcases Loader.eq_or_mem_of_blocked blocked present waits with rfl | before
          · refine culprit.imp_right fun failed => ?_
            simp [answered.static.sound.active.loading_of_failed blocker failed]
          · -- What comes before can be loaded, so it would be.
            rcases culprit with asks | failed
            · obtain ⟨unloaded, -⟩ := Loader.firstBlocker?_eq_some.mp blocked
              exact absurd (answered.loaded_of_asked (loadable blocker before) asks) unloaded
            · exact absurd (loadable blocker before) (answered.not_loadable failed)
      · right
        simp [answered.static.founded name idle begun dependency member]

theorem Answered.failed_of_loading (loading : machine.loader.status name = .loading) :
    machine.loader.isFailed name = true :=
  answered.static.sound.active.failed_of_still answered.still loading

theorem Answered.attempted_of_begun (idle : origin.status name = .unloaded)
    (begun : machine.loader.status name ≠ .unloaded) : origin.Attempted (· = goal) name :=
  answered.explored.attempted name (answered.begun name idle begun)

theorem Answered.loaded_iff : machine.loader.status name = .loaded ↔
    origin.status name = .loaded ∨ origin.Loadable name ∧ origin.Attempted (· = goal) name := by
  constructor
  · intro loaded
    cases before : origin.status name with
    | loaded => exact .inl rfl
    | loading =>
        have failed := answered.failed name ((answered.resting.failed_iff name).mpr before)
        cases loaded.symm.trans (answered.static.sound.active.loading_of_failed name failed)
    | unloaded =>
        exact .inr ⟨answered.explored.loadable name loaded, answered.attempted_of_begun before (by simp [loaded])⟩
  · rintro (before | ⟨loadable, attempted⟩)
    · exact answered.loaded name before
    · rcases answered.asked_of_attempted attempted with asks | begun
      · exact answered.loaded_of_asked loadable asks
      · cases status : machine.loader.status name with
        | loaded => rfl
        | unloaded => exact absurd status begun
        | loading => exact absurd loadable (answered.not_loadable (answered.failed_of_loading status))

theorem Answered.failed_of_asked (fails : origin.Fails name) (asks : name ∈ asked) :
    machine.loader.isFailed name = true := by
  rcases answered.explained name asks with loaded | failed | ⟨-, unknown | ⟨blocker, blocked, culprit⟩⟩
  · exact absurd (answered.explored.loadable name loaded) fails.not_loadable
  · exact failed
  · obtain ⟨record, known, -⟩ := fails.failing
    rw [answered.static.contains, Registry.contains_eq, known] at unknown
    cases unknown
  · obtain ⟨waits, past, rest, split, -⟩ := Loader.firstBlocker?_eq_some.mp blocked
    rw [answered.static.dependencies] at split
    have loadable := fails.dependencies blocker (by simp [split])
    rcases culprit with asks | failed
    · exact absurd (answered.loaded_of_asked loadable asks) waits
    · exact absurd loadable (answered.not_loadable failed)

theorem Answered.failed_iff : machine.loader.isFailed name = true ↔
    origin.isFailed name = true ∨ origin.Fails name ∧ origin.Attempted (· = goal) name := by
  constructor
  · intro failed
    refine (answered.explored.failed name failed).imp_right fun fails => ⟨fails, ?_⟩
    have loading := answered.static.sound.active.loading_of_failed name failed
    exact answered.attempted_of_begun fails.idle (by simp [loading])
  · rintro (before | ⟨fails, attempted⟩)
    · exact answered.failed name before
    · rcases answered.asked_of_attempted attempted with asks | begun
      · exact answered.failed_of_asked fails asks
      · cases status : machine.loader.status name with
        | loaded => exact absurd (answered.explored.loadable name status) fails.not_loadable
        | unloaded => exact absurd status begun
        | loading => exact answered.failed_of_loading status

end Machine

namespace Pass

variable {pass : Pass} {goal name : String} {strict : Bool} {last count : Nat}
  {result : Except LoadError Outcome}

theorem quiet_of_passive (requests : pass.action.Requests) (passive : pass.loader.Confined Action.Passive) :
    pass.Quiet :=
  .of_confined requests passive Action.Passive.silent

theorem static (requests : pass.action.Requests) (passive : pass.loader.Confined Action.Passive)
    (count : Nat) : (pass.state count).Static pass.loader := by
  have quiet := quiet_of_passive requests passive
  exact {
    sound := pass.sound count
    walks := quiet.once.walks count
    passive := pass.confined requests.offers passive Action.Passive.hereditary count
    dependencies := quiet.dependencies_eq count
    contains := quiet.contains_eq count
    lookup := fun _ => quiet.lookup?_eq
    founded := fun name idle begun => (quiet.founded idle begun).2
    walked := fun name rest control => ((pass.traced count).control name rest control).idle
    standing := fun name dependency rest member => by
      obtain ⟨above, below, split⟩ := List.append_of_mem member
      exact ((pass.traced count).frames name dependency rest below ⟨above, split.symm⟩).idle }

theorem underway_zero (asks : pass.action = .request goal strict) :
    (pass.state 0).Underway pass.loader goal (pass.asked 1) := by
  have resting := pass.reachable.resting
  have asked : pass.asked 1 = [goal] := by
    rw [Pass.asked, collect_succ, state_zero asks]
    rfl
  rw [state_zero asks, asked]
  refine ⟨⟨rfl, rfl⟩, trivial, ⟨resting.queue, resting.unresolved, resting.buffers⟩,
    ⟨?_, fun _ => .loaded, fun _ => .inl⟩, fun _ => id, fun _ => .inr, by rintro _ _ ⟨⟩⟩
  intro name member
  exact .asked (List.mem_singleton.mp member)

theorem climbs_or_falls (asks : pass.action = .request goal strict)
    (passive : pass.loader.Confined Action.Passive) (returns : pass.Returns 0 last goal result)
    (early : count ≤ last) :
    (pass.state count).Underway pass.loader goal (pass.asked (count + 1)) ∨
      (pass.state count).Falling pass.loader goal (pass.asked (count + 1)) := by
  have requests : pass.action.Requests := by rw [asks]; trivial
  induction count with
  | zero => exact .inl (underway_zero asks)
  | succ count ih =>
      have stands := stands_before_return asks returns early
      have static := pass.static requests passive count
      have step := step_before_return returns early
      have asked : pass.asked (count + 1 + 1) =
          pass.asked (count + 1) ++ (pass.state (count + 1)).driven?.toList := collect_succ ..
      rw [asked]
      rcases ih (Nat.le_of_lt early) with underway | falling
      · exact underway.step static step stands
      · exact .inr (falling.step static step stands)

theorem answered_of_returns (asks : pass.action = .request goal strict)
    (passive : pass.loader.Confined Action.Passive) (returns : pass.Returns 0 last goal result) :
    (pass.state last).Answered pass.loader goal (pass.asked (last + 1)) := by
  have requests : pass.action.Requests := by rw [asks]; trivial
  have start := state_zero asks
  have bottom : (pass.state last).frames = [.requesting .outermost goal] := by
    rw [returns.below, start]
  have explored : pass.loader.Explored goal (pass.asked (last + 1)) (pass.state last).loader ∧
      ∀ name ∈ pass.asked (last + 1), (pass.state last).loader.status name = .loaded ∨
        (pass.state last).loader.Explained (pass.asked (last + 1)) name := by
    rcases climbs_or_falls asks passive returns (Nat.le_refl last) with underway | falling
    · refine ⟨underway.explored, fun name member => .inl ((underway.left name member).resolve_right ?_)⟩
      rw [Machine.path, returns.answered, bottom]
      exact List.not_mem_nil
    · exact ⟨falling.explored, falling.explained⟩
  refine ⟨pass.static requests passive last, pass.reachable.resting, ?_, ?_, ?_, ?_, explored.1, explored.2, ?_⟩
  · rw [Machine.running, returns.answered, bottom]
    rfl
  · intro name loaded
    refine loaded_mono (Nat.zero_le last) ?_
    rwa [start]
  · intro name failed
    refine failed_mono (Nat.zero_le last) ?_
    rwa [start]
  · intro name idle begun
    exact asked_mono (Nat.le_succ last) (asked_of_begun idle begun)
  · exact mem_asked.mpr ⟨0, Nat.succ_pos last, by rw [start]⟩

end Pass

end DemandLoad
