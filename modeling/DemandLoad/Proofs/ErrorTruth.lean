import DemandLoad.Proofs.ErrorsInFlight
import DemandLoad.Proofs.FailureBlame
import DemandLoad.Proofs.FinalErrors
import Mathlib.Data.List.Chain
import Mathlib.Tactic.Tauto

namespace DemandLoad

namespace Loader

variable {loader : Loader} {name dependency : String}

/-- Each library of the path depends on the next one; the path ends where it begins, repeats no other library,
and none of its libraries has begun to load. -/
structure Cycle (loader : Loader) (path : List String) : Prop where
  closed : ∃ first between, path = first :: between ++ [first] ∧ (first :: between).Nodup
  linked : path.IsChain fun library dependency => dependency ∈ loader.dependencies library
  idle : ∀ name ∈ path, loader.status name = .unloaded

/-- What the error says of declared libraries holds in the loader. -/
def Bears (loader : Loader) : LoadError → Prop
  | .loadFailed failure => loader.isFailed failure.library = true
  | .alreadyFailed library => loader.isFailed library = true
  | .dependencyFailed library dependency => dependency ∈ loader.dependencies library ∧
      loader.isFailed dependency = true ∧ loader.status library = .unloaded
  | .dependencyCycle path => loader.Cycle path
  | .unknown _ _ _ => True
  | .refused _ => False

theorem contains_of_mem_dependencies (member : dependency ∈ loader.dependencies name) :
    loader.registry.contains name = true := by
  rw [Registry.contains_eq]
  cases known : loader.registry.lookup? name with
  | none =>
      rw [dependencies, Registry.dependencies?, known] at member
      cases member
  | some record => rfl

theorem Founded.idle_of_dependency (founded : loader.Founded) (member : dependency ∈ loader.dependencies name)
    (waits : loader.status dependency ≠ .loaded) : loader.status name = .unloaded := by
  apply Classical.byContradiction
  intro begun
  exact waits ((founded name begun).2 dependency member)

end Loader

theorem exists_linked {α : Type} {link : α → α → Prop} {entries : List α} {last entry : α}
    (chain : (entries ++ [last]).IsChain link) (member : entry ∈ entries) :
    ∃ next ∈ entries ++ [last], link entry next := by
  induction entries with
  | nil => cases member
  | cons first entries ih =>
      rcases List.mem_cons.mp member with rfl | later
      · cases entries with
        | nil => exact ⟨last, by simp, (List.isChain_cons_cons.mp chain).1⟩
        | cons second entries => exact ⟨second, by simp, (List.isChain_cons_cons.mp chain).1⟩
      · obtain ⟨next, inside, linked⟩ := ih chain.tail later
        exact ⟨next, List.mem_cons_of_mem _ inside, linked⟩

namespace Loader.Cycle

variable {loader : Loader} {path : List String}

theorem exists_dependency {name : String} (cycle : loader.Cycle path) (member : name ∈ path) :
    ∃ dependency ∈ path, dependency ∈ loader.dependencies name := by
  obtain ⟨first, between, rfl, -⟩ := cycle.closed
  refine exists_linked cycle.linked ?_
  rcases List.mem_append.mp member with inside | last
  · exact inside
  · exact List.mem_singleton.mp last ▸ List.mem_cons_self ..

end Loader.Cycle

namespace Machine

variable {machine next : Machine} {frames : List Frame} {name dependency : String} {error : LoadError}

theorem Step.mem_dependencies (step : Step machine next)
    (fresh : ∀ name, machine.Declares name → machine.loader.registry.contains name = false)
    (member : dependency ∈ machine.loader.dependencies name) : dependency ∈ next.loader.dependencies name := by
  have quiet : ¬ machine.Declares name := by
    intro declares
    cases (fresh name declares).symm.trans (Loader.contains_of_mem_dependencies member)
  rwa [step.dependencies_eq quiet]

/-- What an error says stays true: a failed library is never loaded, and none on a cycle is. -/
theorem Step.bears (active : machine.Active) (founded : next.loader.Founded)
    (fresh : ∀ name, machine.Declares name → machine.loader.registry.contains name = false)
    (step : Step machine next) (bears : machine.loader.Bears error) : next.loader.Bears error := by
  cases error with
  | unknown => trivial
  | refused => exact bears
  | loadFailed failure => exact step.failed_mono active bears
  | alreadyFailed library => exact step.failed_mono active bears
  | dependencyFailed library dependency =>
      obtain ⟨member, failed, -⟩ := bears
      have still := step.failed_mono active failed
      have listed := step.mem_dependencies fresh member
      refine ⟨listed, still, founded.idle_of_dependency listed ?_⟩
      rw [(active.step step).loading_of_failed dependency still]
      exact nofun
  | dependencyCycle path =>
      refine ⟨bears.closed, bears.linked.imp fun _ _ => step.mem_dependencies fresh, ?_⟩
      intro name member
      obtain ⟨dependency, inside, listed⟩ := bears.exists_dependency member
      refine founded.idle_of_dependency (step.mem_dependencies fresh listed) ?_
      intro loaded
      have loading := step.begun_of_idle active (bears.idle dependency inside) (by simp [loaded])
      cases loading.symm.trans loaded

theorem Walks.linked (walks : machine.Walks) (founded : machine.loader.Founded) (stacked : StackedFrames frames)
    (within : frames ⊆ machine.frames) (awaits : TopAwaits (· = name) frames)
    (idle : machine.loader.status name = .unloaded) :
    (name :: walkOf frames).IsChain (fun dependency library => dependency ∈ machine.loader.dependencies library) ∧
      ∀ library ∈ walkOf frames, machine.loader.status library = .unloaded := by
  induction frames generalizing name with
  | nil => exact ⟨.singleton name, by simp [walkOf]⟩
  | cons frame below ih =>
      cases frame with
      | walking library dependency rest =>
          cases awaits dependency rfl
          have blocked := walks.blocked_of_frame (within (List.mem_cons_self ..)) (by simp [idle])
          obtain ⟨-, past, after, split, -⟩ := Loader.firstBlocker?_eq_some.mp blocked
          have waits := founded.idle_of_blocker blocked
          obtain ⟨chain, others⟩ := ih stacked.2.2 (fun _ member => within (List.mem_cons_of_mem _ member))
            (stacked.2.1 library rfl) waits
          refine ⟨List.isChain_cons_cons.mpr ⟨by simp [split], chain⟩, ?_⟩
          intro other member
          rcases List.mem_cons.mp member with rfl | further
          · exact waits
          · exact others other further
      | requesting | sweeping | resuming | settling => exact ⟨.singleton name, by simp [walkOf]⟩

theorem Apart.nodup_walkOf (apart : machine.Apart) (within : frames <:+ machine.frames) : (walkOf frames).Nodup := by
  induction frames with
  | nil => exact .nil
  | cons frame below ih =>
      cases frame with
      | walking library dependency rest =>
          exact List.nodup_cons.mpr ⟨apart.frames _ below library within rfl,
            ih ((List.suffix_cons _ below).trans within)⟩
      | requesting | sweeping | resuming | settling => exact .nil

end Machine

theorem cyclePath_eq {walk : List String} {name : String} (member : name ∈ walk) : ∃ above below,
    walk = above ++ name :: below ∧ name ∉ above ∧ cyclePath walk name = name :: above.reverse ++ [name] := by
  obtain ⟨above, below, rfl, absent⟩ := List.eq_append_cons_of_mem member
  refine ⟨above, below, rfl, absent, ?_⟩
  have apart : ∀ other ∈ above, decide (other ≠ name) = true := by
    intro other inside
    rw [decide_eq_true_eq]
    rintro rfl
    exact absent inside
  rw [cyclePath, List.takeWhile_append_of_pos apart]
  simp

namespace Machine

variable {machine next : Machine} {name : String} {error : LoadError}

theorem cycle_of_walking (walks : machine.Walks) (founded : machine.loader.Founded) (stacked : machine.Stacked)
    (apart : machine.Apart) (control : machine.control = .drive name)
    (idle : machine.loader.status name = .unloaded) (walking : name ∈ walkOf machine.frames) :
    machine.loader.Cycle (cyclePath (walkOf machine.frames) name) := by
  obtain ⟨above, below, walk, absent, path⟩ := cyclePath_eq walking
  have distinct := apart.nodup_walkOf List.suffix_rfl
  obtain ⟨chain, others⟩ := walks.linked founded stacked.frames (List.Subset.refl _)
    (stacked.control name (by rw [control]; rfl)) idle
  rw [walk] at distinct chain others
  rw [path]
  refine ⟨⟨name, above.reverse, rfl, ?_⟩, ?_, ?_⟩
  · rw [List.nodup_cons, List.mem_reverse, List.nodup_reverse]
    exact ⟨absent, (List.nodup_append.mp distinct).1⟩
  · -- The walk has the innermost library first, the path has it last.
    have split : name :: (above ++ name :: below) = (name :: above ++ [name]) ++ below := by simp
    rw [split] at chain
    have turned := List.isChain_reverse.mpr chain.left_of_append
    simpa using turned
  · intro library member
    have place : library = name ∨ library ∈ above := by
      simp only [List.cons_append, List.mem_cons, List.mem_append, List.mem_reverse] at member
      tauto
    rcases place with rfl | inside
    · exact idle
    · exact others library (List.mem_append_left _ inside)

theorem Raises.bears (raises : Raises machine next error) (sound : machine.Sound) (apart : machine.Apart)
    (walks : machine.Walks) (founded : machine.loader.Founded) (later : next.loader.Founded)
    (fresh : ∀ name, machine.Declares name → machine.loader.registry.contains name = false)
    (recorded : ∀ failure ∈ machine.loader.failures, machine.loader.isFailed failure.library = true)
    (step : Step machine next) : next.loader.Bears error := by
  have active := sound.active
  cases raises with
  | alreadyFailed failed => exact step.failed_mono active failed
  | loadFailed failed => exact failed
  | recorded member => exact step.failed_mono active (recorded _ member)
  | unknown unknown =>
      cases error with
      | unknown => trivial
      | _ => cases unknown
  | @dependencyFailed name dependency rest control failed =>
      have waits : machine.loader.status dependency ≠ .loaded := by
        rw [active.loading_of_failed dependency failed]
        exact nofun
      have blocked := walks.blocked control waits
      obtain ⟨-, past, after, split, -⟩ := Loader.firstBlocker?_eq_some.mp blocked
      have before : machine.loader.Bears (.dependencyFailed name dependency) :=
        ⟨by simp [split], failed, founded.idle_of_blocker blocked⟩
      exact step.bears active later fresh before
  | dependencyCycle control idle walking =>
      have before : machine.loader.Bears (.dependencyCycle _) :=
        cycle_of_walking walks founded sound.stacked apart control idle walking
      exact step.bears active later fresh before

end Machine

namespace Pass

variable {pass : Pass} {count : Nat}

theorem failed_of_recorded (pass : Pass) (count : Nat) :
    ∀ failure ∈ (pass.state count).loader.failures, (pass.state count).loader.isFailed failure.library = true := by
  induction count with
  | zero =>
      obtain ⟨loader, reachable, action⟩ := pass
      have buffers : (state ⟨loader, reachable, action⟩ 0).loader.buffers = ([], []) := by
        cases action with
        | register => exact (Loader.buffers_declare ..).trans reachable.resting.buffers
        | request | requestAll | fail | query => exact reachable.resting.buffers
      intro failure member
      rw [show (state ⟨loader, reachable, action⟩ 0).loader.failures = [] from congrArg Prod.fst buffers] at member
      cases member
  | succ count ih =>
      rcases pass.state_cases count with same | step
      · rw [same]
        exact ih
      · have sound := pass.sound count
        intro failure member
        rcases step.reports sound.stacked sound.active with ⟨verdict, concludes⟩ | ⟨failures, news, reports⟩
        · rw [step.of_concludes concludes] at member
          have cleared : ((pass.state count).conclude verdict).loader.failures = [] :=
            congrArg Prod.fst (Loader.buffers_giveUpUnresolved _)
          rw [cleared] at member
          cases member
        · rw [reports.recorded] at member
          rw [reports.failed]
          rcases List.mem_append.mp member with old | new
          · exact .inl (ih failure old)
          · exact .inr (List.mem_map_of_mem new)

theorem DeclaresOnce.bears (once : pass.DeclaresOnce) (founded : pass.loader.Founded) (count : Nat) :
    ∀ error ∈ (pass.state count).held, (pass.state count).loader.Bears error := by
  induction count with
  | zero =>
      intro error member
      rw [show (pass.state 0).held = [] from Machine.held_start pass.reachable.resting pass.action] at member
      cases member
  | succ count ih =>
      rcases pass.state_cases count with same | step
      · rw [same]
        exact ih
      · intro error member
        have sound := pass.sound count
        have later := once.founded founded (count + 1)
        rcases step.mem_held sound.active sound.stacked member with old | raised
        · exact step.bears sound.active later (once.2 count) (ih error old)
        · exact raised.bears sound (pass.apart count) (once.walks count) (once.founded founded count) later
            (once.2 count) (pass.failed_of_recorded count) step

end Pass

namespace Session

/-- Every error is true when it is returned, be it to the requester, to a target or to the outermost caller. -/
structure ErrorsTrue (session : Session) : Prop where
  returned : ∀ index first count name error, (session.pass index).Returns first count name (.error error) →
    (session.state ⟨index, count⟩).loader.Bears error
  answered : ∀ moment frames library action rest answer,
    Machine.Answers (session.state moment) frames library action rest answer →
      ∀ error ∈ answer.allErrors, (session.state moment).loader.Bears error
  outermost : ∀ index, ∀ error ∈ ((session.loader index).perform (session.actions index)).2.allErrors,
    (session.loader (index + 1)).Bears error

/-- Where no library is declared twice, every error is true. -/
theorem errorsTrue_of_declaresOnce (session : Session) (once : session.DeclaresOnce) : session.ErrorsTrue where
  returned index first count name error returns := by
    refine (once index).bears (once.founded index) count error ?_
    rw [Machine.mem_held, returns.answered]
    exact .inl (.inl (List.mem_cons_self ..))
  answered moment frames library action rest answer answers error member :=
    (once moment.index).bears (once.founded moment.index) moment.count error (answers.allErrors_subset member)
  outermost index error member := by
    obtain ⟨last, answer, control, performed⟩ := (session.pass index).exists_done
    have after : session.loader (index + 1) = ((session.pass index).state last).loader := congrArg Prod.fst performed
    have answered : ((session.loader index).perform (session.actions index)).2 = answer :=
      congrArg Prod.snd performed
    rw [answered] at member
    rw [after]
    refine (once index).bears (once.founded index) last error ?_
    rw [Machine.mem_held, control]
    exact .inl (.inl member)

/-- `a` and `b` need each other, `f` requests `a` and then fails, and `g` needs `f`, which is requested
again. -/
def wrecked : Session := .ofList ⟨false⟩ false [.register "a" ["b"] .noop, .register "b" ["a"] .noop,
  .register "f" [] (.program [.request "a" false, .fail "boom"]), .register "g" ["f"] .noop,
  .requestAll "" false, .request "f" false]

theorem errorsTrue_of_declaresOnce_wrecked : wrecked.DeclaresOnce ∧
    (wrecked.pass 4).Returns 26 27 "a" (.error (.dependencyCycle ["a", "b", "a"])) ∧
    (wrecked.state ⟨4, 27⟩).loader.Cycle ["a", "b", "a"] ∧
    ((wrecked.loader 4).perform (wrecked.actions 4)).2.allErrors = [.dependencyCycle ["a", "b", "a"],
      .dependencyCycle ["b", "a", "b"], .loadFailed ⟨"f", "boom"⟩, .dependencyFailed "g" "f"] ∧
    (wrecked.loader 5).Cycle ["b", "a", "b"] ∧ (wrecked.loader 5).isFailed "f" = true ∧
    "f" ∈ (wrecked.loader 5).dependencies "g" ∧ (wrecked.loader 5).status "g" = .unloaded ∧
    ((wrecked.loader 5).perform (wrecked.actions 5)).2.allErrors = [.alreadyFailed "f"] ∧
    (wrecked.loader 6).isFailed "f" = true := by
  have once : wrecked.DeclaresOnce := by
    refine .ofList ?_
    intro index early
    match index, early with
    | 0, _ => exact .of_register rfl (by cbv)
    | 1, _ => exact .of_register rfl (by cbv)
    | 2, _ => exact .of_register rfl (by cbv)
    | 3, _ => exact .of_register rfl (by cbv)
    | 4, _ =>
        refine .of_rest 38 (by cbv) ?_ (by cbv)
        rintro name dependencies target ⟨⟩
    | 5, _ =>
        refine .of_rest 3 (by cbv) ?_ (by cbv)
        rintro name dependencies target ⟨⟩
  have returns : (wrecked.pass 4).Returns 26 27 "a" (.error (.dependencyCycle ["a", "b", "a"])) := by
    refine ⟨by decide, by cbv, by cbv, by cbv, ?_⟩
    intro between after early
    omega
  have first : ((wrecked.loader 4).perform (wrecked.actions 4)).2.allErrors = [.dependencyCycle ["a", "b", "a"],
      .dependencyCycle ["b", "a", "b"], .loadFailed ⟨"f", "boom"⟩, .dependencyFailed "g" "f"] := by cbv
  have second : ((wrecked.loader 5).perform (wrecked.actions 5)).2.allErrors = [.alreadyFailed "f"] := by cbv
  have truth := errorsTrue_of_declaresOnce wrecked once
  have cycle := truth.outermost 4 (.dependencyCycle ["b", "a", "b"]) (by rw [first]; simp)
  have blocked := truth.outermost 4 (.dependencyFailed "g" "f") (by rw [first]; simp)
  have again := truth.outermost 5 (.alreadyFailed "f") (by rw [second]; simp)
  exact ⟨once, returns, truth.returned 4 26 27 "a" _ returns, first, cycle, blocked.2.1, blocked.1, blocked.2.2,
    second, again⟩

end Session

end DemandLoad
