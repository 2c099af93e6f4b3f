import DemandLoad.Tracker

namespace DemandLoad

/-- The names that are among `roots` or wait, directly or behind another, on one of them. -/
inductive Behind (queue : String → List String) (roots : List String) : String → Prop
  | root {name : String} (member : name ∈ roots) : Behind queue roots name
  | waits {name blocker : String} (queued : name ∈ queue blocker)
      (behind : Behind queue roots blocker) : Behind queue roots name

namespace Behind

variable {queue shorter : String → List String} {roots more : List String} {name : String}

theorem mono (behind : Behind queue roots name) (rooted : ∀ root ∈ roots, Behind shorter more root)
    (kept : ∀ blocker other, other ∈ queue blocker → Behind shorter more blocker →
      Behind shorter more other) : Behind shorter more name := by
  induction behind with
  | root member => exact rooted _ member
  | waits queued _ ih => exact kept _ _ queued ih

theorem not_of_no_roots : ¬ Behind queue [] name := by
  intro behind
  induction behind with
  | root member => cases member
  | waits _ _ ih => exact ih

theorem closed {motive : String → Prop} (behind : Behind queue roots name)
    (rooted : ∀ root ∈ roots, motive root)
    (passes : ∀ blocker other, other ∈ queue blocker → motive blocker → motive other) :
    motive name := by
  induction behind with
  | root member => exact rooted _ member
  | waits queued _ ih => exact passes _ _ queued ih

end Behind

namespace Tracker

def queueIn (queues : Table (List String)) (blocker : String) : List String :=
  (queues.get? blocker).getD []

theorem queueIn_erase (queues : Table (List String)) (blocker other : String) :
    queueIn (queues.erase blocker) other = if other = blocker then [] else queueIn queues other := by
  unfold queueIn
  rw [Table.get?_erase]
  split <;> rfl

theorem queueIn_insert (queues : Table (List String)) (blocker : String) (queue : List String)
    (other : String) :
    queueIn (queues.insert blocker queue) other = if other = blocker then queue else queueIn queues other := by
  unfold queueIn
  rw [Table.get?_insert]
  split <;> rfl

theorem mem_unseen (seen queue : List String) (name : String) :
    name ∈ unseen seen queue ↔ name ∈ queue ∧ name ∉ seen := by
  simp [unseen]

theorem behind_round (queues : Table (List String)) (seen : List String) (blocker name : String)
    (known : blocker ∈ seen) :
    Behind (queueIn (queues.erase blocker)) (seen ++ unseen seen (queueIn queues blocker)) name ↔
      Behind (queueIn queues) seen name := by
  constructor
  · intro behind
    refine behind.mono ?_ ?_
    · intro root member
      rcases List.mem_append.mp member with old | fresh
      · exact .root old
      · exact .waits ((mem_unseen ..).mp fresh).1 (.root known)
    · intro other waiter queued further
      rw [queueIn_erase] at queued
      split at queued
      · cases queued
      · exact .waits queued further
  · intro behind
    refine behind.mono (fun root member => .root (List.mem_append_left _ member)) ?_
    intro other waiter queued further
    by_cases same : other = blocker
    · subst same
      apply Behind.root
      by_cases old : waiter ∈ seen
      · exact List.mem_append_left _ old
      · exact List.mem_append_right _ ((mem_unseen ..).mpr ⟨queued, old⟩)
    · refine .waits ?_ further
      rw [queueIn_erase, if_neg same]
      exact queued

/-- Every name in `seen` is still in the frontier, or its queue has been removed. -/
def Explored (queues : Table (List String)) (seen frontier : List String) : Prop :=
  frontier ⊆ seen ∧ ∀ name ∈ seen, name ∈ frontier ∨ queueIn queues name = []

theorem Explored.skip {queues : Table (List String)} {seen frontier : List String} {blocker : String}
    (explored : Explored queues seen (blocker :: frontier)) (absent : queues.get? blocker = none) :
    Explored queues seen frontier := by
  refine ⟨fun name member => explored.1 (List.mem_cons_of_mem _ member), ?_⟩
  intro name member
  rcases explored.2 name member with ahead | empty
  · rcases List.mem_cons.mp ahead with rfl | later
    · exact .inr (by simp [queueIn, absent])
    · exact .inl later
  · exact .inr empty

theorem Explored.round {queues : Table (List String)} {seen frontier : List String} {blocker : String}
    (fresh : List String) (explored : Explored queues seen (blocker :: frontier)) :
    Explored (queues.erase blocker) (seen ++ fresh) (frontier ++ fresh) := by
  constructor
  · intro name member
    rcases List.mem_append.mp member with later | new
    · exact List.mem_append_left _ (explored.1 (List.mem_cons_of_mem _ later))
    · exact List.mem_append_right _ new
  · intro name member
    rcases List.mem_append.mp member with old | new
    · rcases explored.2 name old with ahead | empty
      · rcases List.mem_cons.mp ahead with rfl | later
        · exact .inr (by rw [queueIn_erase, if_pos rfl])
        · exact .inl (List.mem_append_left _ later)
      · right
        rw [queueIn_erase]
        split
        · rfl
        · exact empty
    · exact .inl (List.mem_append_right _ new)

theorem Explored.seen_of_behind {queues : Table (List String)} {seen : List String} {name : String}
    (explored : Explored queues seen []) (behind : Behind (queueIn queues) seen name) :
    name ∈ seen := by
  refine behind.closed (fun _ member => member) ?_
  intro blocker other queued member
  rcases explored.2 blocker member with ahead | empty
  · cases ahead
  · rw [empty] at queued
    cases queued

theorem queueIn_dropFrom (queues : Table (List String)) (seen : List String) (dropped : List Waiter)
    (frontier : List String) (explored : Explored queues seen frontier) (name : String) :
    (Behind (queueIn queues) seen name → queueIn (dropFrom queues seen dropped frontier).1 name = []) ∧
      (¬ Behind (queueIn queues) seen name →
        queueIn (dropFrom queues seen dropped frontier).1 name = queueIn queues name) := by
  fun_induction dropFrom queues seen dropped frontier with
  | case1 queues seen dropped =>
      refine ⟨?_, fun _ => rfl⟩
      intro behind
      rcases explored.2 name (explored.seen_of_behind behind) with ahead | empty
      · cases ahead
      · exact empty
  | case2 queues seen dropped blocker frontier absent ih => exact ih (explored.skip absent)
  | case3 queues seen dropped blocker frontier queue found fresh ih =>
      have known : blocker ∈ seen := explored.1 (List.mem_cons_self ..)
      have row : queueIn queues blocker = queue := by simp [queueIn, found]
      have same := behind_round queues seen blocker name known
      rw [row] at same
      have next := ih (explored.round _)
      rw [same] at next
      refine ⟨next.1, ?_⟩
      intro apart
      have other : name ≠ blocker := by
        rintro rfl
        exact apart (.root known)
      rw [next.2 apart, queueIn_erase, if_neg other]

theorem mem_dropFrom (queues : Table (List String)) (seen : List String) (dropped : List Waiter)
    (frontier : List String) (explored : Explored queues seen frontier) (name : String) :
    name ∈ (dropFrom queues seen dropped frontier).2.map Waiter.library ↔
      name ∈ dropped.map Waiter.library ∨ Behind (queueIn queues) seen name ∧ name ∉ seen := by
  fun_induction dropFrom queues seen dropped frontier with
  | case1 queues seen dropped =>
      constructor
      · exact .inl
      · rintro (old | ⟨behind, unseen⟩)
        · exact old
        · exact absurd (explored.seen_of_behind behind) unseen
  | case2 queues seen dropped blocker frontier absent ih => exact ih (explored.skip absent)
  | case3 queues seen dropped blocker frontier queue found fresh ih =>
      have known : blocker ∈ seen := explored.1 (List.mem_cons_self ..)
      have row : queueIn queues blocker = queue := by simp [queueIn, found]
      have same := behind_round queues seen blocker name known
      rw [row] at same
      rw [ih (explored.round _), same]
      have arrivals : name ∈ fresh ↔ name ∈ queue ∧ name ∉ seen := mem_unseen ..
      have reached : name ∈ fresh → Behind (queueIn queues) seen name := by
        intro member
        exact .waits (row ▸ (arrivals.mp member).1) (.root known)
      simp only [List.map_append, List.map_map, List.mem_append, Function.comp_def, List.map_id']
      by_cases new : name ∈ fresh
      · simp [new, reached new, (arrivals.mp new).2]
      · simp [new]

variable (tracker : Tracker) (roots : List String) (name : String)

theorem explored_roots (queues : Table (List String)) : Explored queues roots roots :=
  ⟨fun _ member => member, fun _ member => .inl member⟩

theorem queue_drop_of_behind (behind : Behind tracker.queue roots name) :
    (tracker.drop roots).1.queue name = [] :=
  (queueIn_dropFrom tracker.queues roots [] roots (explored_roots roots _) name).1 behind

theorem queue_drop_of_apart (apart : ¬ Behind tracker.queue roots name) :
    (tracker.drop roots).1.queue name = tracker.queue name :=
  (queueIn_dropFrom tracker.queues roots [] roots (explored_roots roots _) name).2 apart

theorem mem_drop : name ∈ (tracker.drop roots).2.map Waiter.library ↔
    Behind tracker.queue roots name ∧ name ∉ roots :=
  (mem_dropFrom tracker.queues roots [] roots (explored_roots roots _) name).trans (by
    simp only [List.map_nil, List.not_mem_nil, false_or]
    rfl)

theorem queue_drop_subset (blocker : String) :
    (tracker.drop roots).1.queue blocker ⊆ tracker.queue blocker := by
  by_cases behind : Behind tracker.queue roots blocker
  · simp [queue_drop_of_behind tracker roots blocker behind]
  · simp [queue_drop_of_apart tracker roots blocker behind]

end Tracker

end DemandLoad
