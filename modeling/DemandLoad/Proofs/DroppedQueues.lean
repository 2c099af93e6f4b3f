import DemandLoad.Proofs.WaitingBehind

namespace DemandLoad

theorem eraseDups_of_nodup {names : List String} (nodup : names.Nodup) : names.eraseDups = names := by
  induction names with
  | nil => rfl
  | cons name names ih =>
      obtain ⟨absent, distinct⟩ := List.nodup_cons.mp nodup
      have others : names.filter (fun other => !other == name) = names := by
        refine List.filter_eq_self.mpr ?_
        intro other member
        have apart : other ≠ name := by
          rintro rfl
          exact absent member
        simp [apart]
      rw [List.eraseDups_cons, others, ih distinct]

def Waiter.behind (blocker : String) (dropped : List Waiter) : List String :=
  (dropped.filter fun waiter => waiter.blocker = blocker).map Waiter.library

theorem Waiter.behind_append (blocker : String) (dropped more : List Waiter) :
    behind blocker (dropped ++ more) = behind blocker dropped ++ behind blocker more := by
  simp [behind]

theorem Waiter.behind_map (blocker other : String) (names : List String) :
    behind other (names.map (⟨·, blocker⟩)) = if blocker = other then names else [] := by
  by_cases same : blocker = other <;> simp [behind, List.filter_map, Function.comp_def, same]

namespace Tracker

/-- Every name is in at most one queue, once. -/
structure Single (queue : String → List String) : Prop where
  nodup : ∀ blocker, (queue blocker).Nodup
  unique : ∀ name blocker other, name ∈ queue blocker → name ∈ queue other → blocker = other

theorem Single.erase {queues : Table (List String)} (single : Single (queueIn queues)) (blocker : String) :
    Single (queueIn (queues.erase blocker)) := by
  have within : ∀ other, (queueIn (queues.erase blocker) other).Sublist (queueIn queues other) := by
    intro other
    rw [queueIn_erase]
    split
    · exact List.nil_sublist _
    · exact List.Sublist.refl _
  exact ⟨fun other => (single.nodup other).sublist (within other), fun name first second queued again =>
    single.unique name first second ((within first).subset queued) ((within second).subset again)⟩

theorem unseen_eq_filter {seen queue : List String} (nodup : queue.Nodup) :
    unseen seen queue = queue.filter (· ∉ seen) :=
  eraseDups_of_nodup (nodup.filter _)

open Classical in
theorem behind_dropFrom (queues : Table (List String)) (seen : List String) (dropped : List Waiter)
    (frontier : List String) (explored : Explored queues seen frontier) (single : Single (queueIn queues))
    (blocker : String) : Waiter.behind blocker (dropFrom queues seen dropped frontier).2 =
      Waiter.behind blocker dropped ++
        if Behind (queueIn queues) seen blocker then (queueIn queues blocker).filter (· ∉ seen) else [] := by
  fun_induction dropFrom queues seen dropped frontier with
  | case1 queues seen dropped =>
      split
      case isTrue behind =>
        rcases explored.2 blocker (explored.seen_of_behind behind) with ahead | empty
        · cases ahead
        · simp [empty]
      case isFalse => simp
  | case2 queues seen dropped next frontier absent ih => exact ih (explored.skip absent) single
  | case3 queues seen dropped next frontier queue found fresh ih =>
      have known : next ∈ seen := explored.1 (List.mem_cons_self ..)
      have row : queueIn queues next = queue := by simp [queueIn, found]
      have round : Behind (queueIn (queues.erase next)) (seen ++ fresh) blocker ↔
          Behind (queueIn queues) seen blocker := by
        have moved := behind_round queues seen next blocker known
        rwa [row] at moved
      have arrivals : fresh = queue.filter (· ∉ seen) := unseen_eq_filter (row ▸ single.nodup next)
      rw [ih (explored.round _) (single.erase next), Waiter.behind_append, Waiter.behind_map,
        List.append_assoc, queueIn_erase]
      congr 1
      by_cases same : next = blocker
      · subst same
        have behind : Behind (queueIn queues) seen next := .root known
        simp [behind, row, arrivals]
      · -- No name of this queue has been taken with the other one.
        have apart : ∀ name ∈ queueIn queues blocker, name ∉ fresh := by
          intro name queued member
          have again := ((mem_unseen ..).mp member).1
          rw [← row] at again
          exact same (single.unique name next blocker again queued)
        rw [if_neg same, List.nil_append, if_neg (Ne.symm same)]
        simp only [round]
        split
        · refine List.filter_congr ?_
          intro name queued
          simp [apart name queued]
        · rfl

open Classical in
theorem behind_drop (tracker : Tracker) (roots : List String) (single : Single tracker.queue)
    (blocker : String) : Waiter.behind blocker (tracker.drop roots).2 =
      if Behind tracker.queue roots blocker then (tracker.queue blocker).filter (· ∉ roots) else [] :=
  behind_dropFrom tracker.queues roots [] roots (explored_roots roots _) single blocker

theorem Single.root_of_itself {queue : String → List String} {roots : List String} {name : String}
    (single : Single queue) (behind : Behind queue roots name) (queued : name ∈ queue name) : name ∈ roots := by
  refine behind.closed (motive := fun name => name ∈ queue name → name ∈ roots) ?_ ?_ queued
  · exact fun root member _ => member
  · intro blocker other waits ih itself
    cases single.unique other blocker other waits itself
    exact ih itself

open Classical in
theorem behind_drop_of_roots (tracker : Tracker) (roots : List String) (single : Single tracker.queue)
    (rooted : ∀ root ∈ roots, ∀ blocker, Behind tracker.queue roots blocker → root ∈ tracker.queue blocker →
      root = blocker) (blocker : String) : Waiter.behind blocker (tracker.drop roots).2 =
      if Behind tracker.queue roots blocker then (tracker.queue blocker).filter (· ≠ blocker) else [] := by
  rw [behind_drop tracker roots single]
  split
  case isFalse => rfl
  case isTrue behind =>
    refine List.filter_congr ?_
    intro name queued
    have same : name ∉ roots ↔ name ≠ blocker := by
      constructor
      · rintro apart rfl
        exact apart (single.root_of_itself behind queued)
      · exact fun apart root => apart (rooted name root blocker behind queued)
    simp only [same]

end Tracker

end DemandLoad
