import DemandLoad.Proofs.DroppedQueues
import DemandLoad.Proofs.FinalErrors
import DemandLoad.Proofs.PassCleanup
import DemandLoad.Proofs.QueueTransfers
import DemandLoad.Proofs.TrackerOperations
import DemandLoad.Proofs.UnresolvedNames
import Mathlib.Data.List.Nodup
import Mathlib.Logic.Relation

/-!
Where no library is declared twice, every name is in one queue at most: that of its first blocker, or its own
while it runs. The queues have no cycle, since a new blocker leads to a running target or to an undeclared name.
-/

namespace DemandLoad

namespace Tracker

variable {tracker : Tracker} {name blocker other : String}

theorem new_defer (tracker : Tracker) (name blocker : String) :
    (tracker.defer name blocker).2 = decide (name ∉ tracker.queue blocker) := by
  unfold defer
  split <;> simp_all

theorem Single.nodup_values (single : Single tracker.queue) : tracker.queues.values.flatten.Nodup := by
  have row : ∀ row ∈ tracker.queues.entries, tracker.queue row.1 = row.2 := by
    intro row member
    rw [queue, tracker.queues.get?_of_mem member, Option.getD_some]
  refine List.nodup_flatten.mpr ⟨?_, ?_⟩
  · intro waiting member
    obtain ⟨entry, inside, rfl⟩ := List.mem_map.mp member
    exact row entry inside ▸ single.nodup entry.1
  · refine List.pairwise_map.mpr (List.Pairwise.imp_of_mem ?_ (List.pairwise_map.mp tracker.queues.distinct))
    intro first second inside within differ name waits again
    rw [← row first inside] at waits
    rw [← row second within] at again
    exact differ (single.unique name first.1 second.1 waits again)

end Tracker

theorem transGen_or_of_new {α : Type} {before after : α → α → Prop} {fresh : α → Prop} {first last : α}
    (new : ∀ source target, after source target → before source target ∨ fresh target)
    (way : Relation.TransGen after first last) : Relation.TransGen before first last ∨
      ∃ target, fresh target ∧ Relation.TransGen after first target ∧
        Relation.ReflTransGen after target last := by
  induction way with
  | single step =>
      rcases new _ _ step with old | reached
      · exact .inl (.single old)
      · exact .inr ⟨_, reached, .single step, .refl⟩
  | tail way step ih =>
      rcases ih with old | ⟨target, reached, upTo, onward⟩
      · rcases new _ _ step with further | reached
        · exact .inl (old.tail further)
        · exact .inr ⟨_, reached, way.tail step, .refl⟩
      · exact .inr ⟨target, reached, upTo, onward.tail step⟩

namespace Machine

variable {machine next : Machine} {loader : Loader} {frames : List Frame} {name blocker : String}

theorem Postpones.entered (reason : Postpones machine loader frames name blocker) (apart : name ≠ blocker) :
    machine.Entered name := by
  cases reason
  case itself => exact absurd rfl apart
  case itselfMeanwhile => exact absurd rfl apart
  case dependencyLoading => exact .walks _ rfl
  case dependencyWaits => exact .stands _ _ (List.mem_cons_self ..)

theorem Step.not_unresolved_of_entered {rest : List String} (step : Step machine next)
    (driven : machine.control = .drive name) (walked : next.control = .walk name rest) :
    name ∉ next.loader.unresolved := by
  cases step with
  | enter => cases driven; simp [Loader.forget]
  | advance reason => cases reason <;> cases driven
  | _ => cases walked

theorem Step.entered (active : machine.Active) (step : Step machine next) (entered : next.Entered name) :
    machine.Entered name ∨
      machine.loader.registry.contains name = true ∧ name ∉ next.loader.unresolved := by
  cases entered with
  | walks rest control =>
      rcases step.walk_control control with ⟨driven, -, -⟩ | ⟨dependency, -, ⟨before, -⟩ | below⟩
      · exact .inr ⟨step.known_of_entered driven control, step.not_unresolved_of_entered driven control⟩
      · exact .inl (.walks _ before)
      · exact .inl (.stands dependency rest (below ▸ List.mem_cons_self ..))
  | begun begun =>
      left
      by_cases idle : machine.loader.status name = .unloaded
      · exact .walks [] (step.begins active idle (step.begun_of_idle active idle begun)).1
      · exact .begun idle
  | stands dependency rest member =>
      left
      rcases step.mem_frames member with below | inHand
      · exact .stands dependency rest below
      · exact .walks _ (Control.walk_of_inHand? inHand)
  | waits blocker waits =>
      left
      rcases step.queued active waits.1 with old | ⟨_, _, reason, -⟩
      · exact .waits blocker ⟨old, waits.2⟩
      · exact reason.entered waits.2

def Resolved (machine : Machine) : Prop :=
  ∀ name, machine.Entered name →
    machine.loader.registry.contains name = true ∧ name ∉ machine.loader.unresolved

theorem Resolved.not_unresolved (resolved : machine.Resolved) (due : machine.Due) (step : Step machine next)
    (known : machine.loader.registry.contains name = true) (absent : name ∉ machine.loader.unresolved) :
    name ∉ next.loader.unresolved := by
  intro unresolved
  have recalls := step.recalls due fun other control => (resolved other (.walks _ control)).1
  rcases step.unresolved_before recalls unresolved with old | unknown
  · exact absent old
  · cases known.symm.trans unknown

theorem Resolved.step (resolved : machine.Resolved) (active : machine.Active) (due : machine.Due)
    (step : Step machine next) : next.Resolved := by
  intro name entered
  rcases step.entered active entered with before | ⟨known, forgotten⟩
  · obtain ⟨known, absent⟩ := resolved name before
    exact ⟨step.contains_mono known, resolved.not_unresolved due step known absent⟩
  · exact ⟨step.contains_mono known, forgotten⟩

theorem Step.nodup_queue (active : machine.Active) (step : Step machine next)
    (nodup : ∀ blocker, (machine.loader.tracker.queue blocker).Nodup) (blocker : String) :
    (next.loader.tracker.queue blocker).Nodup := by
  obtain ⟨news, -, dealt⟩ := step.deals active
  cases dealt with
  | quiet plain queue => exact queue ▸ nodup blocker
  | resumed library name drain queue => exact queue ▸ nodup blocker
  | joined name other plain reason queue =>
      rw [queue, Tracker.queue_defer]
      split
      case isTrue new =>
        rw [← List.concat_eq_append]
        exact (nodup other).concat new.2
      case isFalse => exact nodup blocker
  | dropped others roots plain rooted queue =>
      rw [queue]
      by_cases behind : Behind machine.loader.tracker.queue roots blocker
      · rw [Tracker.queue_drop_of_behind _ _ _ behind]
        exact .nil
      · rw [Tracker.queue_drop_of_apart _ _ _ behind]
        exact nodup blocker
  | loaded name loading ended queue =>
      rw [queue]
      split
      · exact .nil
      · exact nodup blocker

end Machine

namespace Pass

variable {pass : Pass} {name blocker other : String} {count : Nat}

theorem DeclaresOnce.resolved (once : pass.DeclaresOnce) (founded : pass.loader.Founded) (count : Nat) :
    (pass.state count).Resolved := by
  induction count with
  | zero =>
      intro name entered
      cases entered with
      | begun begun =>
          refine ⟨(once.founded founded 0 name begun).1, ?_⟩
          rw [pass.unresolved_zero]
          exact List.not_mem_nil
      | walks rest control =>
          obtain ⟨moment, past, captured, -⟩ := (pass.traced 0).control name rest control
          exact absurd captured.earlier (Nat.not_lt_zero moment)
      | stands dependency rest member =>
          obtain ⟨above, below, split⟩ := List.append_of_mem member
          obtain ⟨moment, past, captured, -⟩ :=
            (pass.traced 0).frames name dependency rest below ⟨above, split.symm⟩
          exact absurd captured.earlier (Nat.not_lt_zero moment)
      | waits blocker waits =>
          obtain ⟨queued, -⟩ := waits
          rw [pass.queue_zero] at queued
          cases queued
  | succ count ih =>
      rcases pass.state_cases count with same | step
      · rwa [same]
      · exact ih.step (pass.sound count).active (pass.due count) step

theorem nodup_queue (pass : Pass) (count : Nat) (blocker : String) :
    ((pass.state count).loader.tracker.queue blocker).Nodup := by
  induction count generalizing blocker with
  | zero => exact (pass.queue_zero blocker).symm ▸ .nil
  | succ count ih =>
      rcases pass.state_cases count with same | step
      · exact same ▸ ih blocker
      · exact step.nodup_queue (pass.sound count).active ih blocker

theorem Orderly.running_of_postpones {loader : Loader} {frames : List Frame} (orderly : Orderly pass count)
    (walks : (pass.state count).Walks) (resolved : (pass.state count).Resolved)
    (before : name ∈ (pass.state count).loader.tracker.queue name → name ∈ (pass.state count).running)
    (reason : Machine.Postpones (pass.state count) loader frames name name) :
    name ∈ (pass.state count).running := by
  have sound := pass.sound count
  have queues := orderly.queues
  generalize pass.state count = machine at reason sound walks queues resolved before
  have busy := sound.active.mem_running name
  cases reason with
  | itself loading fine => exact busy.mpr ⟨loading, fine⟩
  | itselfMeanwhile loading fine => exact busy.mpr ⟨loading, fine⟩
  | dependencyLoading loading fine => exact busy.mpr ⟨loading, fine⟩
  | dependencyWaits waits =>
      -- The walk of `name` stands on the stack, so it leads to its own queue or not further at all.
      have blocked := walks.blocked_of_frame (List.mem_cons_self ..) waits
      rcases sound.answered _ rfl _ rfl with loaded | ⟨-, anchored⟩
      · exact absurd loaded waits
      · cases anchored with
        | root member =>
            rcases List.mem_append.mp member with running | unresolved
            · exact running
            · exact absurd unresolved (resolved name (.stands _ _ (List.mem_cons_self ..))).2
        | @waits _ blocker queued =>
            rcases queues blocker name queued with rfl | first
            · exact before queued
            · cases blocked.symm.trans first
              exact before queued

theorem DeclaresOnce.running_of_queued (once : pass.DeclaresOnce) (founded : pass.loader.Founded) (count : Nat)
    (queued : name ∈ (pass.state count).loader.tracker.queue name) : name ∈ (pass.state count).running := by
  induction count with
  | zero =>
      rw [pass.queue_zero] at queued
      cases queued
  | succ count ih =>
      rcases pass.state_cases count with same | step
      · rw [same] at queued ⊢
        exact ih queued
      · have active := (pass.sound count).active
        rcases step.queued active queued with old | ⟨_, _, reason, after⟩
        · have running := ih old
          cases step.progress active with
          | still same kept => exact kept ▸ running
          | begun started control idle same added => exact added ▸ List.mem_cons_of_mem _ running
          | ended ending control same drained left =>
              rcases List.mem_cons.mp (left ▸ running) with rfl | within
              · rw [drained] at queued
                cases queued
              · exact within
          | failed failing same left drained =>
              rcases List.mem_cons.mp (left ▸ running) with rfl | within
              · rw [drained] at queued
                cases queued
              · exact within
        · have running := (once.orderly founded count).running_of_postpones (once.walks count)
            (once.resolved founded count) ih reason
          rw [after, reason.running_eq]
          exact running

theorem DeclaresOnce.blocked_of_waits (once : pass.DeclaresOnce) (founded : pass.loader.Founded) (count : Nat)
    (waits : (pass.state count).loader.tracker.WaitsOn name blocker) :
    (pass.state count).loader.firstBlocker? name = some blocker ∧
      (pass.state count).loader.status name = .unloaded := by
  rcases (once.orderly founded count).queues blocker name waits.1 with same | blocked
  · exact absurd same waits.2
  · exact ⟨blocked, (once.founded founded count).idle_of_blocker blocked⟩

theorem DeclaresOnce.not_waits_of_running (once : pass.DeclaresOnce) (founded : pass.loader.Founded)
    (count : Nat) (running : name ∈ (pass.state count).running) :
    ¬ (pass.state count).loader.tracker.WaitsOn name blocker := by
  intro waits
  have idle := (once.blocked_of_waits founded count waits).2
  rw [(((pass.sound count).active.mem_running name).mp running).1] at idle
  cases idle

theorem DeclaresOnce.unique_blocker (once : pass.DeclaresOnce) (founded : pass.loader.Founded) (count : Nat)
    (queued : name ∈ (pass.state count).loader.tracker.queue blocker)
    (again : name ∈ (pass.state count).loader.tracker.queue other) : blocker = other := by
  have itself : ∀ further, name ∈ (pass.state count).loader.tracker.queue name →
      name ∈ (pass.state count).loader.tracker.queue further → name = further := by
    intro further own queued
    have running := once.running_of_queued founded count own
    exact Classical.byContradiction fun apart =>
      once.not_waits_of_running founded count running ⟨queued, apart⟩
  by_cases first : name = blocker
  · subst first
    exact itself other queued again
  by_cases second : name = other
  · subst second
    exact (itself blocker again queued).symm
  have blocked := (once.blocked_of_waits founded count ⟨queued, first⟩).1
  exact Option.some.inj (blocked.symm.trans (once.blocked_of_waits founded count ⟨again, second⟩).1)

theorem DeclaresOnce.single (once : pass.DeclaresOnce) (founded : pass.loader.Founded) (count : Nat) :
    Tracker.Single (pass.state count).loader.tracker.queue :=
  ⟨pass.nodup_queue count, fun _ _ _ => once.unique_blocker founded count⟩

theorem DeclaresOnce.acyclic_of_anchored (once : pass.DeclaresOnce) (founded : pass.loader.Founded)
    (count : Nat) (anchored : (pass.state count).Anchored name) :
    ¬ Relation.TransGen (pass.state count).loader.tracker.WaitsOn name name := by
  refine anchored.closed (motive := fun name =>
    ¬ Relation.TransGen (pass.state count).loader.tracker.WaitsOn name name) ?_ ?_
  · intro root member cycle
    obtain ⟨blocker, waits, -⟩ := Relation.TransGen.head'_iff.mp cycle
    rcases List.mem_append.mp member with running | unresolved
    · exact once.not_waits_of_running founded count running waits
    · exact (once.resolved founded count root (.waits blocker waits)).2 unresolved
  · intro blocker waiter queued ends cycle
    obtain ⟨further, waits, onward⟩ := Relation.TransGen.head'_iff.mp cycle
    cases once.unique_blocker founded count queued waits.1
    exact ends (Relation.TransGen.tail' onward waits)

theorem DeclaresOnce.acyclic (once : pass.DeclaresOnce) (founded : pass.loader.Founded) (count : Nat)
    (name : String) : ¬ Relation.TransGen (pass.state count).loader.tracker.WaitsOn name name := by
  induction count generalizing name with
  | zero =>
      intro cycle
      obtain ⟨blocker, waits, -⟩ := Relation.TransGen.head'_iff.mp cycle
      obtain ⟨queued, -⟩ := waits
      rw [pass.queue_zero] at queued
      cases queued
  | succ count ih =>
      rcases pass.state_cases count with same | step
      · rw [same]
        exact ih name
      · intro cycle
        have new : ∀ waiter blocker, (pass.state (count + 1)).loader.tracker.WaitsOn waiter blocker →
            (pass.state count).loader.tracker.WaitsOn waiter blocker ∨
              (pass.state (count + 1)).Anchored blocker := by
          intro waiter blocker waits
          rcases step.queued (pass.sound count).active waits.1 with old | ⟨_, _, reason, after⟩
          · exact .inl ⟨old, waits.2⟩
          · exact .inr (after ▸ reason.anchored (pass.sound count))
        rcases transGen_or_of_new new cycle with old | ⟨blocker, anchored, reached, onward⟩
        · exact ih name old
        · exact once.acyclic_of_anchored founded (count + 1) anchored (.trans_right onward reached)

end Pass

/-- The shape of the queues, while the targets of `running` run. -/
structure Loader.Forest (loader : Loader) (running : List String) : Prop where
  distinct : loader.tracker.queues.values.flatten.Nodup
  blocked : ∀ name blocker, loader.tracker.WaitsOn name blocker →
    loader.registry.contains name = true ∧ loader.status name = .unloaded ∧
      loader.firstBlocker? name = some blocker
  itself : ∀ name, name ∈ loader.tracker.queue name → name ∈ running
  acyclic : ∀ name, ¬ Relation.TransGen loader.tracker.WaitsOn name name

theorem Pass.DeclaresOnce.forest {pass : Pass} (once : pass.DeclaresOnce) (founded : pass.loader.Founded)
    (count : Nat) : (pass.state count).loader.Forest (pass.state count).running where
  distinct := (once.single founded count).nodup_values
  blocked name blocker waits := by
    obtain ⟨blocked, idle⟩ := once.blocked_of_waits founded count waits
    exact ⟨Loader.contains_of_blocked blocked, idle, blocked⟩
  itself _ queued := once.running_of_queued founded count queued
  acyclic := once.acyclic founded count

theorem Loader.Reachable.forest {loader : Loader} (reachable : loader.Reachable) : loader.Forest [] := by
  have unqueued := reachable.resting.queue
  have alone : ∀ name blocker, ¬ loader.tracker.WaitsOn name blocker := by
    intro name blocker waits
    obtain ⟨queued, -⟩ := waits
    rw [unqueued] at queued
    cases queued
  refine ⟨?_, fun name blocker waits => absurd waits (alone name blocker), ?_, ?_⟩
  · rw [reachable.tidy.queues_eq_empty unqueued]
    exact .nil
  · intro name queued
    rwa [unqueued] at queued
  · intro name cycle
    obtain ⟨blocker, waits, -⟩ := Relation.TransGen.head'_iff.mp cycle
    exact alone name blocker waits

namespace Session

/-- Where no library is declared twice, the queues form a forest, within every pass and between them. -/
theorem forest_of_declaresOnce (session : Session) (once : session.DeclaresOnce) :
    (∀ moment, (session.state moment).loader.Forest (session.state moment).running) ∧
      ∀ index, (session.loader index).Forest [] :=
  ⟨fun moment => (once moment.index).forest (once.founded moment.index) moment.count,
    fun index => (session.reachable index).forest⟩

/-- While `a` runs, `d` comes to wait for `b`, `b` for `a`, and `a` for itself. Later `g` waits for `f`, which
fails. -/
def gathered : Session := .ofList ⟨true⟩ false [
  .register "a" [] (.program [.request "b" false, .request "d" false, .request "a" false]),
  .register "b" ["a"] .noop, .register "d" ["b"] .noop,
  .register "f" [] (.program [.request "g" false, .fail "boom"]), .register "g" ["f"] .noop,
  .requestAll "" false]

theorem gathered_declaresOnce : gathered.DeclaresOnce := by
  refine .ofList ?_
  intro index early
  match index, early with
  | 0, _ => exact .of_register rfl (by cbv)
  | 1, _ => exact .of_register rfl (by cbv)
  | 2, _ => exact .of_register rfl (by cbv)
  | 3, _ => exact .of_register rfl (by cbv)
  | 4, _ => exact .of_register rfl (by cbv)
  | 5, _ =>
      refine .of_rest 60 (by cbv) ?_ (by cbv)
      rintro name dependencies target ⟨⟩

theorem forest_of_declaresOnce_gathered : gathered.DeclaresOnce ∧
    (gathered.state ⟨5, 16⟩).loader.tracker.WaitsOn "d" "b" ∧
    (gathered.state ⟨5, 16⟩).loader.tracker.WaitsOn "b" "a" ∧
    "a" ∈ (gathered.state ⟨5, 16⟩).loader.tracker.queue "a" ∧
    (gathered.state ⟨5, 16⟩).loader.Forest ["a"] ∧ (gathered.loader 6).Forest [] := by
  have behind : (gathered.state ⟨5, 16⟩).loader.tracker.queue "b" = ["d"] := by cbv
  have first : (gathered.state ⟨5, 16⟩).loader.tracker.queue "a" = ["b", "a"] := by cbv
  have running : (gathered.state ⟨5, 16⟩).running = ["a"] := by cbv
  obtain ⟨within, between⟩ := forest_of_declaresOnce gathered gathered_declaresOnce
  exact ⟨gathered_declaresOnce, ⟨by simp [behind], by decide⟩, ⟨by simp [first], by decide⟩, by simp [first],
    running ▸ within ⟨5, 16⟩, between 6⟩

end Session

end DemandLoad
