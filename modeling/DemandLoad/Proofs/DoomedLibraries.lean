import DemandLoad.Proofs.WriteOnceSessions

/-!
Libraries that are never loaded: following first blockers from them leads to a failed library or into a cycle.
Every request that ends in an error is for such a library, and so is what waits behind it.
-/

namespace DemandLoad

namespace Loader

variable {loader : Loader} {name blocker : String}

/-- The library belongs to a set in which every member satisfies `ends` or has its first blocker in the set. -/
def Trapped (loader : Loader) (ends : String → Prop) (name : String) : Prop :=
  ∃ members : String → Prop, members name ∧ ∀ member, members member →
    ends member ∨ ∃ blocker, members blocker ∧ loader.firstBlocker? member = some blocker

theorem Trapped.of_end {ends : String → Prop} (ended : ends name) : loader.Trapped ends name := by
  refine ⟨(· = name), rfl, ?_⟩
  rintro member rfl
  exact .inl ended

theorem Trapped.of_blocker {ends : String → Prop} (blocked : loader.firstBlocker? name = some blocker)
    (behind : loader.Trapped ends blocker) : loader.Trapped ends name := by
  obtain ⟨members, member, closed⟩ := behind
  refine ⟨fun other => other = name ∨ members other, .inl rfl, ?_⟩
  rintro other (rfl | inside)
  · exact .inr ⟨blocker, .inr member, blocked⟩
  · rcases closed other inside with ended | ⟨further, within, blocked⟩
    · exact .inl ended
    · exact .inr ⟨further, .inr within, blocked⟩

theorem Trapped.mono {ends more : String → Prop} (trapped : loader.Trapped ends name)
    (weaken : ∀ other, ends other → more other) : loader.Trapped more name := by
  obtain ⟨members, member, closed⟩ := trapped
  exact ⟨members, member, fun other inside => (closed other inside).imp_left (weaken other)⟩

/-- Following first blockers leads to a failed library or into a cycle. -/
def Doomed (loader : Loader) (name : String) : Prop :=
  loader.Trapped (fun other => loader.isFailed other = true) name

/-- The library is doomed, through libraries with the property only. -/
def Caught (loader : Loader) (property : String → Prop) (name : String) : Prop :=
  ∃ members : String → Prop, members name ∧ ∀ member, members member → property member ∧
    (loader.isFailed member = true ∨
      ∃ blocker, members blocker ∧ loader.firstBlocker? member = some blocker)

theorem doomed_iff_caught : loader.Doomed name ↔ loader.Caught (fun _ => True) name := by
  constructor
  · rintro ⟨members, member, closed⟩
    exact ⟨members, member, fun other inside => ⟨trivial, closed other inside⟩⟩
  · rintro ⟨members, member, closed⟩
    exact ⟨members, member, fun other inside => (closed other inside).2⟩

section Caught

variable {property : String → Prop}

theorem Caught.doomed (caught : loader.Caught property name) : loader.Doomed name := by
  obtain ⟨members, member, closed⟩ := caught
  exact ⟨members, member, fun other inside => (closed other inside).2⟩

theorem Caught.of_failed (failed : loader.isFailed name = true) (holds : property name) :
    loader.Caught property name := by
  refine ⟨(· = name), rfl, ?_⟩
  rintro member rfl
  exact ⟨holds, .inl failed⟩

theorem Caught.of_blocker (blocked : loader.firstBlocker? name = some blocker) (holds : property name)
    (behind : loader.Caught property blocker) : loader.Caught property name := by
  obtain ⟨members, member, closed⟩ := behind
  refine ⟨fun other => other = name ∨ members other, .inl rfl, ?_⟩
  rintro other (rfl | inside)
  · exact ⟨holds, .inr ⟨blocker, .inr member, blocked⟩⟩
  · obtain ⟨held, failed | ⟨further, within, blocked⟩⟩ := closed other inside
    · exact ⟨held, .inl failed⟩
    · exact ⟨held, .inr ⟨further, .inr within, blocked⟩⟩

end Caught

theorem contains_of_blocked (blocked : loader.firstBlocker? name = some blocker) :
    loader.registry.contains name = true := by
  obtain ⟨-, past, rest, split, -⟩ := firstBlocker?_eq_some.mp blocked
  rw [Registry.contains_eq]
  cases known : loader.registry.lookup? name with
  | some record => rfl
  | none => simp [dependencies, Registry.dependencies?, known] at split

end Loader

namespace Machine

variable {machine next : Machine} {loader : Loader} {frames : List Frame} {name blocker : String}

theorem Doomed.not_loaded (active : machine.Active) (founded : machine.loader.Founded)
    (doomed : machine.loader.Doomed name) : machine.loader.status name ≠ .loaded := by
  obtain ⟨members, member, closed⟩ := doomed
  intro loaded
  rcases closed name member with failed | ⟨blocker, -, blocked⟩
  · cases loaded.symm.trans (active.loading_of_failed name failed)
  · cases loaded.symm.trans (founded.idle_of_blocker blocked)

theorem Step.firstBlocker?_eq (active : machine.Active) (step : Step machine next)
    (fresh : ∀ name, machine.Declares name → machine.loader.registry.contains name = false)
    (blocked : machine.loader.firstBlocker? name = some blocker)
    (waits : next.loader.status blocker ≠ .loaded) : next.loader.firstBlocker? name = some blocker := by
  have quiet : ¬ machine.Declares name := by
    intro declares
    have known := Loader.contains_of_blocked blocked
    rw [fresh name declares] at known
    cases known
  obtain ⟨-, past, rest, split, loaded⟩ := Loader.firstBlocker?_eq_some.mp blocked
  refine Loader.firstBlocker?_eq_some.mpr ⟨waits, past, rest, (step.dependencies_eq quiet).trans split, ?_⟩
  intro dependency member
  exact step.loaded_mono active (loaded dependency member)

theorem Step.begun_of_failed (active : machine.Active) (step : Step machine next)
    (failed : next.loader.isFailed name = true) : machine.loader.status name ≠ .unloaded := by
  have before : machine.loader.isFailed name = true → machine.loader.status name ≠ .unloaded := by
    intro failed
    simp [active.loading_of_failed name failed]
  cases step.progress active with
  | still same running => exact before ((same.isFailed name).symm.trans failed)
  | begun started control idle same running => exact before ((same.isFailed name).symm.trans failed)
  | ended ending control same drained running => exact before ((same.isFailed name).symm.trans failed)
  | failed failing same running =>
      rcases (same.isFailed_failed name).mp failed with old | rfl
      · exact before old
      · have busy := (active.mem_running name).mp (running ▸ List.mem_cons_self ..)
        simp [busy.1]

theorem Step.caught {property later : String → Prop} (active : machine.Active) (step : Step machine next)
    (founded : machine.loader.Founded)
    (fresh : ∀ name, machine.Declares name → machine.loader.registry.contains name = false)
    (kept : ∀ other, machine.loader.registry.contains other = true → property other → later other)
    (caught : machine.loader.Caught property name) : next.loader.Caught later name := by
  obtain ⟨members, member, closed⟩ := caught
  have waits : ∀ other, members other → next.loader.status other ≠ .loaded := by
    intro other inside loaded
    rcases (closed other inside).2 with failed | ⟨further, -, blocked⟩
    · have failing := (active.step step).loading_of_failed other (step.failed_mono active failed)
      cases loaded.symm.trans failing
    · have idle := founded.idle_of_blocker blocked
      cases loaded.symm.trans (step.begun_of_idle active idle (by simp [loaded]))
  refine ⟨members, member, ?_⟩
  intro other inside
  obtain ⟨holds, failed | ⟨further, within, blocked⟩⟩ := closed other inside
  · have begun := active.loading_of_failed other failed
    exact ⟨kept other (founded other (by simp [begun])).1 holds, .inl (step.failed_mono active failed)⟩
  · refine ⟨kept other (Loader.contains_of_blocked blocked) holds, .inr ⟨further, within, ?_⟩⟩
    exact step.firstBlocker?_eq active fresh blocked (waits further within)

theorem Step.doomed (active : machine.Active) (step : Step machine next)
    (founded : machine.loader.Founded)
    (fresh : ∀ name, machine.Declares name → machine.loader.registry.contains name = false)
    (doomed : machine.loader.Doomed name) : next.loader.Doomed name := by
  rw [Loader.doomed_iff_caught] at doomed ⊢
  exact step.caught active founded fresh (fun _ _ _ => trivial) doomed

inductive Entered (machine : Machine) (name : String) : Prop
  | walks (rest : List String) (control : machine.control = .walk name rest)
  | stands (dependency : String) (rest : List String)
      (member : .walking name dependency rest ∈ machine.frames)
  | waits (blocker : String) (waits : machine.loader.tracker.WaitsOn name blocker)
  | begun (begun : machine.loader.status name ≠ .unloaded)

theorem exists_walking (member : name ∈ walkOf frames) :
    ∃ dependency rest, Frame.walking name dependency rest ∈ frames := by
  induction frames with
  | nil => cases member
  | cons frame below ih =>
      cases frame with
      | walking library dependency rest =>
          rcases List.mem_cons.mp member with rfl | further
          · exact ⟨dependency, rest, List.mem_cons_self ..⟩
          · obtain ⟨dependency, rest, inside⟩ := ih further
            exact ⟨dependency, rest, List.mem_cons_of_mem _ inside⟩
      | requesting | sweeping | resuming | settling => cases member

theorem Entered.of_walking (member : name ∈ walkOf machine.frames) : machine.Entered name := by
  obtain ⟨dependency, rest, inside⟩ := exists_walking member
  exact .stands dependency rest inside

structure Walks (machine : Machine) : Prop where
  control : ∀ name rest, machine.control = .walk name rest →
    ∃ past, machine.loader.dependencies name = past ++ rest ∧
      ∀ dependency ∈ past, machine.loader.status dependency = .loaded
  frames : ∀ name dependency rest, .walking name dependency rest ∈ machine.frames →
    ∃ past, machine.loader.dependencies name = past ++ dependency :: rest ∧
      ∀ dependency ∈ past, machine.loader.status dependency = .loaded

theorem Walks.blocked {dependency : String} {rest : List String}
    (walks : Walks machine) (control : machine.control = .walk name (dependency :: rest))
    (waits : machine.loader.status dependency ≠ .loaded) :
    machine.loader.firstBlocker? name = some dependency := by
  obtain ⟨past, split, loaded⟩ := walks.control name _ control
  exact Loader.firstBlocker?_eq_some.mpr ⟨waits, past, rest, split, loaded⟩

theorem Walks.blocked_of_frame {dependency : String} {rest : List String} (walks : Walks machine)
    (member : .walking name dependency rest ∈ machine.frames)
    (waits : machine.loader.status dependency ≠ .loaded) :
    machine.loader.firstBlocker? name = some dependency := by
  obtain ⟨past, split, loaded⟩ := walks.frames name dependency rest member
  exact Loader.firstBlocker?_eq_some.mpr ⟨waits, past, rest, split, loaded⟩

theorem Walks.blocked_of_mem (walks : Walks machine)
    (unloaded : ∀ library dependency rest, .walking library dependency rest ∈ machine.frames →
      machine.loader.firstBlocker? library = some dependency → machine.loader.status library ≠ .loaded)
    (stacked : StackedFrames frames) (within : frames ⊆ machine.frames)
    (awaits : TopAwaits (· = name) frames) (waits : machine.loader.status name ≠ .loaded)
    (member : blocker ∈ walkOf frames) :
    ∃ further, (further = name ∨ further ∈ walkOf frames) ∧
      machine.loader.firstBlocker? blocker = some further := by
  induction frames generalizing name with
  | nil => cases member
  | cons frame below ih =>
      cases frame with
      | walking library dependency rest =>
          have same : dependency = name := awaits dependency rfl
          subst same
          have top := within (List.mem_cons_self ..)
          have blocked := walks.blocked_of_frame top waits
          rcases List.mem_cons.mp member with rfl | further
          · exact ⟨dependency, .inl rfl, blocked⟩
          · obtain ⟨next, inside, found⟩ := ih stacked.2.2 (fun _ inner => within (List.mem_cons_of_mem _ inner))
              (stacked.2.1 library rfl) (unloaded _ _ _ top blocked) further
            refine ⟨next, .inr ?_, found⟩
            rcases inside with rfl | inside
            · exact List.mem_cons_self ..
            · exact List.mem_cons_of_mem _ inside
      | requesting | sweeping | resuming | settling => cases member

theorem Rejects.caught {error : LoadError} {property : String → Prop}
    (reason : Rejects machine loader frames name error) (sound : machine.Sound)
    (founded : machine.loader.Founded) (walks : Walks machine)
    (entered : ∀ other, machine.Entered other → property other)
    (errors : ∀ error, machine.control = .answered (.error error) →
      TopAwaits (machine.loader.Caught property) machine.frames) : machine.loader.Caught property name := by
  cases reason
  case failedBefore loading failed => exact .of_failed failed (entered name (.begun (by simp [loading])))
  case failedMeanwhile loading failed => exact .of_failed failed (entered name (.walks _ rfl))
  case refused unfinished => exact absurd unfinished sound.active.not_refused
  case dependencyFailed dependency rest loading failed =>
    have behind : loader.Caught property dependency :=
      .of_failed failed (entered dependency (.begun (by simp [loading])))
    exact .of_blocker (walks.blocked rfl (by simp [loading])) (entered name (.walks _ rfl)) behind
  case passedOn dependency rest =>
    have behind := errors error rfl dependency rfl
    have waits := Doomed.not_loaded sound.active founded behind.doomed
    have standing := List.mem_cons_self (a := Frame.walking name dependency rest) (l := frames)
    exact .of_blocker (walks.blocked_of_frame standing waits) (entered name (.stands _ _ standing)) behind
  case cycle idle known walking =>
    refine ⟨(· ∈ walkOf frames), walking, ?_⟩
    intro member inside
    obtain ⟨further, within, blocked⟩ := walks.blocked_of_mem
      (fun _ _ _ _ blocked => by simp [founded.idle_of_blocker blocked]) sound.stacked.frames
      (List.Subset.refl _) (sound.stacked.control _ rfl) (by simp [idle]) inside
    refine ⟨entered member (.of_walking inside), .inr ⟨further, ?_, blocked⟩⟩
    rcases within with rfl | within
    · exact walking
    · exact within

theorem Step.caught_of_error {error : LoadError} {property later : String → Prop} (step : Step machine next)
    (sound : machine.Sound) (founded : machine.loader.Founded) (walks : Walks machine)
    (fresh : ∀ name, machine.Declares name → machine.loader.registry.contains name = false)
    (entered : ∀ other, machine.Entered other → property other)
    (kept : ∀ other, machine.loader.registry.contains other = true → property other → later other)
    (errors : ∀ error, machine.control = .answered (.error error) →
      TopAwaits (machine.loader.Caught property) machine.frames)
    (control : next.control = .answered (.error error)) :
    TopAwaits (next.loader.Caught later) next.frames := by
  cases step with
  | reject reason =>
      have caught := reason.caught sound founded walks entered errors
      exact (reason.leaves sound.stacked).2.of_eq ((Step.reject reason).caught sound.active founded fresh kept caught)
  | @fail _ _ library _ _ _ _ reason failing =>
      have begun : machine.loader.status library ≠ .unloaded := by simp [(sound.active.of_answers reason).1]
      exact (reason.leaves sound.stacked).2.of_eq (.of_failed (sound.active.isFailed_fail reason _ _)
        (kept library (founded library begun).1 (entered library (.begun begun))))
  | _ => cases control

theorem Postpones.blocked (walks : Walks machine)
    (reason : Postpones machine loader frames name blocker) :
    name = blocker ∨ machine.loader.firstBlocker? name = some blocker := by
  cases reason
  case itself => exact .inl rfl
  case itselfMeanwhile => exact .inl rfl
  case dependencyLoading loading _ => exact .inr (walks.blocked rfl (by simp [loading]))
  case dependencyWaits waits => exact .inr (walks.blocked_of_frame (List.mem_cons_self ..) waits)

end Machine

namespace Pass

variable {pass : Pass} {name : String} {count : Nat}

theorem DeclaresOnce.walks (once : pass.DeclaresOnce) (count : Nat) : (pass.state count).Walks where
  control name rest control := once.split ((pass.traced count).control name rest control)
  frames name dependency rest member := by
    obtain ⟨above, below, split⟩ := List.append_of_mem member
    exact once.split ((pass.traced count).frames name dependency rest below ⟨above, split.symm⟩)

/-- The invariant of a pass that declares each library once: queues follow the first blockers, and every library
whose request failed is doomed. -/
structure Orderly (pass : Pass) (count : Nat) : Prop where
  queues : ∀ blocker waiter, waiter ∈ (pass.state count).loader.tracker.queue blocker →
    waiter = blocker ∨ (pass.state count).loader.firstBlocker? waiter = some blocker
  errors : ∀ error, (pass.state count).control = .answered (.error error) →
    TopAwaits (pass.state count).loader.Doomed (pass.state count).frames

theorem Orderly.caught (orderly : Orderly pass count) (error : LoadError)
    (answered : (pass.state count).control = .answered (.error error)) :
    TopAwaits ((pass.state count).loader.Caught fun _ => True) (pass.state count).frames :=
  (orderly.errors error answered).imp fun _ => Loader.doomed_iff_caught.mp

theorem Orderly.start (pass : Pass) : Orderly pass 0 where
  queues blocker waiter queued := by
    rw [pass.queue_zero] at queued
    cases queued
  errors error control := by
    obtain ⟨loader, reachable, action⟩ := pass
    cases action <;> cases control

theorem Orderly.step (orderly : Orderly pass count) (once : pass.DeclaresOnce)
    (founded : (pass.state count).loader.Founded)
    (step : Machine.Step (pass.state count) (pass.state (count + 1))) : Orderly pass (count + 1) := by
  have sound := pass.sound count
  have walks := once.walks count
  have fresh := once.2 count
  constructor
  · intro blocker waiter queued
    have waits : (pass.state (count + 1)).loader.status blocker ≠ .loaded :=
      fun loaded => (pass.sound (count + 1)).not_queued loaded queued
    have before : waiter = blocker ∨ (pass.state count).loader.firstBlocker? waiter = some blocker := by
      rcases step.queued sound.active queued with old | ⟨_, _, reason, -⟩
      · exact orderly.queues blocker waiter old
      · exact reason.blocked walks
    exact before.imp_right fun blocked => step.firstBlocker?_eq sound.active fresh blocked waits
  · intro error control
    have caught : TopAwaits ((pass.state (count + 1)).loader.Caught fun _ => True) _ :=
      step.caught_of_error sound founded walks fresh (fun _ _ => trivial)
      (fun _ _ _ => trivial) orderly.caught control
    exact caught.imp fun _ => Loader.Caught.doomed

theorem Orderly.rest (orderly : Orderly pass count) (same : pass.state (count + 1) = pass.state count) :
    Orderly pass (count + 1) := by
  obtain ⟨queues, errors⟩ := orderly
  constructor
  · rwa [same]
  · rwa [same]

theorem DeclaresOnce.orderly (once : pass.DeclaresOnce) (founded : pass.loader.Founded) (count : Nat) :
    Orderly pass count := by
  induction count with
  | zero => exact .start pass
  | succ count ih =>
      rcases pass.state_cases count with same | step
      · exact ih.rest same
      · exact ih.step once (once.founded founded count) step

theorem Orderly.caught_of_drops {property later : String → Prop} (orderly : Orderly pass count)
    (once : pass.DeclaresOnce) (founded : pass.loader.Founded)
    (step : Machine.Step (pass.state count) (pass.state (count + 1)))
    (entered : ∀ other, (pass.state count).Entered other → property other)
    (kept : ∀ other, (pass.state count).loader.registry.contains other = true → property other → later other)
    (errors : ∀ error, (pass.state count).control = .answered (.error error) →
      TopAwaits ((pass.state count).loader.Caught property) (pass.state count).frames)
    (drops : (pass.state count).Drops (pass.state (count + 1)) name) :
    (pass.state (count + 1)).loader.Caught later name := by
  have sound := pass.sound count
  have fresh := once.2 count
  have grounds := once.founded founded count
  obtain ⟨culprit, ends, behind⟩ := drops
  refine behind.closed ?_ ?_
  · intro root member
    rw [List.mem_singleton.mp member]
    cases ends with
    | rejected reason =>
        have caught := reason.caught sound grounds (once.walks count) entered errors
        exact step.caught sound.active grounds fresh kept caught
    | failed failed =>
        have begun := step.begun_of_failed sound.active failed
        exact .of_failed failed (kept culprit (grounds culprit begun).1 (entered culprit (.begun begun)))
  · intro blocker waiter queued caught
    by_cases same : waiter = blocker
    · exact same ▸ caught
    · have blocked := ((orderly.queues blocker waiter queued).resolve_left same)
      have waits := Machine.Doomed.not_loaded (pass.sound (count + 1)).active
        (once.founded founded (count + 1)) caught.doomed
      refine .of_blocker (step.firstBlocker?_eq sound.active fresh blocked waits) ?_ caught
      exact kept waiter (Loader.contains_of_blocked blocked) (entered waiter (.waits blocker ⟨queued, same⟩))

theorem Orderly.doomed_of_drops (orderly : Orderly pass count) (once : pass.DeclaresOnce)
    (founded : pass.loader.Founded)
    (step : Machine.Step (pass.state count) (pass.state (count + 1)))
    (drops : (pass.state count).Drops (pass.state (count + 1)) name) :
    (pass.state (count + 1)).loader.Doomed name := by
  have caught : (pass.state (count + 1)).loader.Caught (fun _ => True) name :=
    orderly.caught_of_drops once founded step (fun _ _ => trivial) (fun _ _ _ => trivial) orderly.caught drops
  exact caught.doomed

end Pass

end DemandLoad
