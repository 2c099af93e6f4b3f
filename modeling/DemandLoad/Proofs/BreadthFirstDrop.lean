import DemandLoad.Proofs.WaitingBehind

/-!
The order of a drop. Blockers are visited breadth first: the roots in the order given, then each name in the
order in which it was found. A visit goes through a queue from its front and takes every name that was not seen
before.
-/

namespace DemandLoad

namespace Waiter

/-- The first waiter of each library that is not in `seen`. -/
def firsts (seen : List String) : List Waiter → List Waiter
  | [] => []
  | waiter :: rest =>
    if waiter.library ∈ seen then firsts seen rest
    else waiter :: firsts (waiter.library :: seen) rest

/-- The waiters found by visiting the queues of the blockers one after the other. -/
def served (queue : String → List String) (seen visits : List String) : List Waiter :=
  firsts seen (visits.flatMap fun blocker => (queue blocker).map (⟨·, blocker⟩))

theorem mem_firsts (seen : List String) (waiters : List Waiter) (name : String) :
    name ∈ (firsts seen waiters).map library ↔ name ∈ waiters.map library ∧ name ∉ seen := by
  induction waiters generalizing seen with
  | nil => simp [firsts]
  | cons waiter rest ih =>
      unfold firsts
      by_cases known : waiter.library ∈ seen
      · rw [if_pos known, ih, List.map_cons, List.mem_cons]
        refine and_congr_left fun new => ?_
        have apart : name ≠ waiter.library := by
          rintro rfl
          exact new known
        simp [apart]
      · rw [if_neg known, List.map_cons, List.map_cons, List.mem_cons, List.mem_cons, ih, List.mem_cons]
        by_cases same : name = waiter.library
        · simp [same, known]
        · simp [same]

theorem firsts_subset (seen : List String) (waiters : List Waiter) : firsts seen waiters ⊆ waiters := by
  induction waiters generalizing seen with
  | nil => exact List.nil_subset _
  | cons waiter rest ih =>
      unfold firsts
      split
      · exact List.subset_cons_of_subset _ (ih seen)
      · exact List.cons_subset_cons _ (ih _)

theorem nodup_firsts (seen : List String) (waiters : List Waiter) :
    ((firsts seen waiters).map library).Nodup := by
  induction waiters generalizing seen with
  | nil => exact .nil
  | cons waiter rest ih =>
      unfold firsts
      split
      · exact ih seen
      · refine List.nodup_cons.mpr ⟨?_, ih _⟩
        intro again
        exact ((mem_firsts ..).mp again).2 (List.mem_cons_self ..)

theorem firsts_congr {seen other : List String} (same : ∀ name, name ∈ seen ↔ name ∈ other)
    (waiters : List Waiter) : firsts seen waiters = firsts other waiters := by
  induction waiters generalizing seen other with
  | nil => rfl
  | cons waiter rest ih =>
      have further : ∀ name, name ∈ waiter.library :: seen ↔ name ∈ waiter.library :: other := by
        intro name
        rw [List.mem_cons, List.mem_cons, same]
      simp only [firsts, same, ih same, ih further]

theorem firsts_append (seen : List String) (waiters more : List Waiter) :
    firsts seen (waiters ++ more) =
      firsts seen waiters ++ firsts (seen ++ (firsts seen waiters).map library) more := by
  induction waiters generalizing seen with
  | nil => simp [firsts]
  | cons waiter rest ih =>
      rw [List.cons_append, firsts, firsts]
      by_cases known : waiter.library ∈ seen
      · rw [if_pos known, if_pos known, ih]
      · rw [if_neg known, if_neg known, ih, List.map_cons, List.cons_append]
        congr 2
        refine firsts_congr ?_ more
        intro name
        simp only [List.mem_cons, List.mem_append]
        exact or_left_comm

theorem firsts_queue (seen queue : List String) (blocker : String) :
    firsts seen (queue.map (⟨·, blocker⟩)) = (Tracker.unseen seen queue).map (⟨·, blocker⟩) := by
  induction queue generalizing seen with
  | nil => rfl
  | cons name queue ih =>
      rw [List.map_cons, firsts]
      by_cases known : name ∈ seen
      · rw [if_pos known, ih]
        simp [Tracker.unseen, known]
      · rw [if_neg known, ih]
        have others : (queue.filter (· ∉ seen)).filter (fun other => !other == name) =
            queue.filter (· ∉ name :: seen) := by
          rw [List.filter_filter]
          refine List.filter_congr ?_
          intro other _
          by_cases same : other = name <;> simp [same]
        simp only [Tracker.unseen]
        rw [List.filter_cons_of_pos (by simp [known]), List.eraseDups_cons, others, List.map_cons]

variable (queue : String → List String) (seen visits : List String)

theorem served_append (more : List String) : served queue seen (visits ++ more) =
    served queue seen visits ++ served queue (seen ++ (served queue seen visits).map library) more := by
  rw [served, List.flatMap_append, firsts_append]
  rfl

theorem served_singleton (blocker : String) : served queue seen [blocker] =
    (Tracker.unseen seen (queue blocker)).map (⟨·, blocker⟩) := by
  rw [served, List.flatMap_singleton, firsts_queue]

theorem served_mono {more : List String} (early : visits <+: more) :
    served queue seen visits <+: served queue seen more := by
  obtain ⟨later, rfl⟩ := early
  rw [served_append]
  exact List.prefix_append ..

theorem mem_served (name : String) : name ∈ (served queue seen visits).map library ↔
    (∃ blocker ∈ visits, name ∈ queue blocker) ∧ name ∉ seen := by
  rw [served, mem_firsts, List.map_flatMap]
  simp [Function.comp_def]

theorem queued_of_served {waiter : Waiter} (member : waiter ∈ served queue seen visits) :
    waiter.blocker ∈ visits ∧ waiter.library ∈ queue waiter.blocker := by
  obtain ⟨blocker, visited, row⟩ := List.mem_flatMap.mp (firsts_subset _ _ member)
  obtain ⟨name, queued, rfl⟩ := List.mem_map.mp row
  exact ⟨visited, queued⟩

theorem first_of_served {waiter : Waiter} (member : waiter ∈ served queue seen visits) :
    ∃ before after, visits = before ++ waiter.blocker :: after ∧
      ∀ blocker ∈ before, waiter.library ∉ queue blocker := by
  induction visits generalizing seen with
  | nil => cases member
  | cons blocker visits ih =>
      rw [← List.singleton_append, served_append] at member
      rcases List.mem_append.mp member with now | later
      · obtain ⟨visited, -⟩ := queued_of_served _ _ _ now
        cases List.mem_singleton.mp visited
        exact ⟨[], visits, rfl, fun _ => nofun⟩
      · obtain ⟨before, after, split, apart⟩ := ih _ later
        refine ⟨blocker :: before, after, congrArg (blocker :: ·) split, ?_⟩
        have new := ((mem_served ..).mp (List.mem_map_of_mem later)).2
        rw [List.mem_append, not_or, mem_served] at new
        intro other visited
        rcases List.mem_cons.mp visited with rfl | further
        · exact fun queued => new.2 ⟨⟨other, List.mem_singleton_self _, queued⟩, new.1⟩
        · exact apart other further

end Waiter

/-- The names within so many rounds of waiting behind the roots. -/
def BehindWithin (queue : String → List String) (roots : List String) : Nat → String → Prop
  | 0, name => name ∈ roots
  | rounds + 1, name => name ∈ roots ∨ ∃ blocker, BehindWithin queue roots rounds blocker ∧ name ∈ queue blocker

/-- The waiters are those found by visiting first the roots and then these waiters themselves. -/
structure BreadthFirst (queue : String → List String) (roots : List String) (dropped : List Waiter) :
    Prop where
  order : dropped = Waiter.served queue roots (roots ++ dropped.map Waiter.library)
  earlier : ∀ before waiter, before ++ [waiter] <+: dropped →
    waiter.blocker ∈ roots ++ before.map Waiter.library

namespace BreadthFirst

variable {queue : String → List String} {roots : List String} {dropped other before : List Waiter}

theorem nodup (search : BreadthFirst queue roots dropped) : (dropped.map Waiter.library).Nodup := by
  rw [search.order]
  exact Waiter.nodup_firsts ..

theorem served_prefix (search : BreadthFirst queue roots dropped) (early : before <+: dropped) :
    Waiter.served queue roots (roots ++ before.map Waiter.library) <+: dropped := by
  have visits : roots ++ before.map Waiter.library <+: roots ++ dropped.map Waiter.library :=
    (List.prefix_append_right_inj roots).mpr (early.map _)
  calc
    _ <+: Waiter.served queue roots (roots ++ dropped.map Waiter.library) := Waiter.served_mono _ _ _ visits
    _ = dropped := search.order.symm

theorem next_prefix (search : BreadthFirst queue roots dropped) {waiter : Waiter}
    (early : before ++ [waiter] <+: dropped) :
    before ++ [waiter] <+: Waiter.served queue roots (roots ++ before.map Waiter.library) := by
  have taken := search.served_prefix ((List.prefix_append before [waiter]).trans early)
  rcases List.prefix_or_prefix_of_prefix early taken with within | short
  · exact within
  · -- The search would have to come to the library of the next waiter twice.
    have member : waiter ∈ Waiter.served queue roots (roots ++ dropped.map Waiter.library) :=
      search.order ▸ early.subset (List.mem_append_right _ (List.mem_singleton_self _))
    have queued := (Waiter.queued_of_served _ _ _ member).2
    have new := ((Waiter.mem_served ..).mp (List.mem_map_of_mem member)).2
    have found : waiter.library ∈
        (Waiter.served queue roots (roots ++ before.map Waiter.library)).map Waiter.library :=
      (Waiter.mem_served ..).mpr ⟨⟨_, search.earlier before waiter early, queued⟩, new⟩
    rcases List.prefix_concat_iff.mp short with same | shorter
    · exact same ▸ List.prefix_rfl
    · have distinct := search.nodup.sublist (early.sublist.map Waiter.library)
      rw [List.map_append, List.nodup_append] at distinct
      exact absurd rfl (distinct.2.2 _ ((shorter.map _).subset found) _ (List.mem_singleton_self _))

theorem prefix_of_prefix (search : BreadthFirst queue roots dropped) (same : BreadthFirst queue roots other)
    (count : Nat) : dropped.take count <+: other := by
  induction count with
  | zero => exact List.nil_prefix
  | succ count ih =>
      -- The other search makes all the visits that have come to this waiter.
      by_cases short : count < dropped.length
      · have early : dropped.take count ++ [dropped[count]] <+: dropped := by
          rw [← List.take_succ_eq_append_getElem short]
          exact List.take_prefix ..
        rw [List.take_succ_eq_append_getElem short]
        exact (search.next_prefix early).trans (same.served_prefix ih)
      · rwa [List.take_of_length_le (by omega), ← List.take_of_length_le (Nat.le_of_not_lt short)]

/-- Only one list of waiters satisfies the description. -/
theorem unique (search : BreadthFirst queue roots dropped) (same : BreadthFirst queue roots other) :
    dropped = other := by
  have onward := search.prefix_of_prefix same dropped.length
  have back := same.prefix_of_prefix search other.length
  rw [List.take_length] at onward back
  exact onward.eq_of_length_le back.length_le

theorem nearer (search : BreadthFirst queue roots dropped) (rounds : Nat) :
    ∃ near, near <+: dropped ∧
      ∀ name, name ∈ near.map Waiter.library ↔ BehindWithin queue roots rounds name ∧ name ∉ roots := by
  induction rounds with
  | zero => exact ⟨[], List.nil_prefix, fun name => by simp [BehindWithin]⟩
  | succ rounds ih =>
      obtain ⟨near, early, within⟩ := ih
      refine ⟨_, search.served_prefix early, ?_⟩
      have visited : ∀ blocker, blocker ∈ roots ++ near.map Waiter.library ↔
          BehindWithin queue roots rounds blocker := by
        intro blocker
        have rooted : blocker ∈ roots → BehindWithin queue roots rounds blocker := by
          intro root
          cases rounds with
          | zero => exact root
          | succ => exact .inl root
        rw [List.mem_append, within]
        by_cases root : blocker ∈ roots <;> simp [root, rooted]
      intro name
      rw [Waiter.mem_served]
      simp only [visited, BehindWithin]
      by_cases root : name ∈ roots <;> simp [root]

end BreadthFirst

namespace Table

variable {α : Type}

theorem lookup_filter_apart (keys : List String) (other : String) (rows : List (String × α)) :
    (rows.filter (·.1 ∉ keys)).lookup other = if other ∈ keys then none else rows.lookup other := by
  induction rows with
  | nil => simp
  | cons row rows ih =>
      obtain ⟨name, held⟩ := row
      by_cases gone : name ∈ keys
      · rw [List.filter_cons_of_neg (by simp [gone]), ih, lookup_row]
        by_cases same : other = name <;> simp [same, gone]
      · rw [List.filter_cons_of_pos (by simp [gone]), lookup_row, lookup_row, ih]
        by_cases same : other = name <;> simp [same, gone]

theorem entries_erase_of_absent (table : Table α) (key : String) (absent : table.get? key = none) :
    (table.erase key).entries = table.entries := by
  refine List.filter_eq_self.mpr ?_
  intro row member
  have apart := (table.get?_eq_none key).mp absent
  exact decide_eq_true fun same => apart (same ▸ List.mem_map_of_mem member)

end Table

namespace Tracker

/-- The invariant of the search: `frontier` is what is still to be visited after `visited`. -/
structure Searched (start : Table (List String)) (roots visited : List String) (queues : Table (List String))
    (seen : List String) (dropped : List Waiter) (frontier : List String) : Prop where
  known : seen = roots ++ dropped.map Waiter.library
  visits : visited ++ frontier = seen
  order : dropped = Waiter.served (queueIn start) roots visited
  earlier : ∀ before waiter, before ++ [waiter] <+: dropped →
    waiter.blocker ∈ roots ++ before.map Waiter.library
  rows : queues.entries = start.entries.filter (·.1 ∉ visited)

namespace Searched

variable {start queues : Table (List String)} {roots visited seen frontier : List String}
  {dropped : List Waiter} {blocker : String}

theorem get? (searched : Searched start roots visited queues seen dropped frontier) (name : String) :
    queues.get? name = if name ∈ visited then none else start.get? name := by
  rw [Table.get?, searched.rows]
  exact Table.lookup_filter_apart visited name start.entries

theorem rows_erase (searched : Searched start roots visited queues seen dropped frontier) (name : String) :
    (queues.erase name).entries = start.entries.filter (·.1 ∉ visited ++ [name]) := by
  change queues.entries.filter _ = _
  rw [searched.rows, List.filter_filter]
  refine List.filter_congr ?_
  intro row _
  by_cases same : row.1 = name <;> simp [same]

theorem mem_seen (searched : Searched start roots visited queues seen dropped (blocker :: frontier)) :
    blocker ∈ roots ++ dropped.map Waiter.library := by
  rw [← searched.known, ← searched.visits]
  exact List.mem_append_right _ (List.mem_cons_self ..)

theorem order_visit (searched : Searched start roots visited queues seen dropped frontier) :
    Waiter.served (queueIn start) roots (visited ++ [blocker]) =
      dropped ++ (unseen seen (queueIn start blocker)).map (⟨·, blocker⟩) := by
  rw [Waiter.served_append, Waiter.served_singleton, ← searched.order, ← searched.known]

theorem first (start : Table (List String)) (roots : List String) :
    Searched start roots [] start roots [] roots where
  known := (List.append_nil roots).symm
  visits := rfl
  order := rfl
  earlier before waiter early := by simp at early
  rows := (List.filter_eq_self.mpr fun _ _ => rfl).symm

theorem skip (searched : Searched start roots visited queues seen dropped (blocker :: frontier))
    (absent : queues.get? blocker = none) :
    Searched start roots (visited ++ [blocker]) queues seen dropped frontier where
  known := searched.known
  visits := by rw [List.append_assoc]; exact searched.visits
  order := by
    have nobody : unseen seen (queueIn start blocker) = [] := by
      refine List.eq_nil_iff_forall_not_mem.mpr ?_
      intro name member
      obtain ⟨queued, new⟩ := (mem_unseen ..).mp member
      by_cases old : blocker ∈ visited
      · -- An earlier visit has taken all that waited here.
        have taken := Waiter.mem_served (queueIn start) roots visited name
        rw [← searched.order] at taken
        rw [searched.known, List.mem_append, not_or, taken] at new
        exact new.2 ⟨⟨blocker, old, queued⟩, new.1⟩
      · rw [searched.get?, if_neg old] at absent
        rw [queueIn, absent] at queued
        cases queued
    rw [searched.order_visit, nobody, List.map_nil, List.append_nil]
  earlier := searched.earlier
  rows := by rw [← searched.rows_erase, queues.entries_erase_of_absent blocker absent]

theorem round {queue : List String}
    (searched : Searched start roots visited queues seen dropped (blocker :: frontier))
    (found : queues.get? blocker = some queue) :
    Searched start roots (visited ++ [blocker]) (queues.erase blocker) (seen ++ unseen seen queue)
      (dropped ++ (unseen seen queue).map (⟨·, blocker⟩)) (frontier ++ unseen seen queue) where
  known := by
    rw [searched.known]
    simp [Function.comp_def]
  visits := by
    rw [← searched.visits]
    simp
  order := by
    have row : queueIn start blocker = queue := by
      rw [searched.get?] at found
      split at found
      · cases found
      · rw [queueIn, found, Option.getD_some]
    rw [searched.order_visit, row]
  earlier before waiter early := by
    rcases List.prefix_or_prefix_of_prefix early (List.prefix_append ..) with old | past
    · exact searched.earlier before waiter old
    · rcases List.prefix_concat_iff.mp past with same | ⟨between, rfl⟩
      · exact searched.earlier before waiter (same ▸ List.prefix_rfl)
      · have now : between ++ [waiter] <+: (unseen seen queue).map (⟨·, blocker⟩) := by
          rw [List.append_assoc] at early
          exact (List.prefix_append_right_inj dropped).mp early
        obtain ⟨name, -, rfl⟩ := List.mem_map.mp
          (now.subset (List.mem_append_right _ (List.mem_singleton_self _)))
        rw [List.map_append, ← List.append_assoc]
        exact List.mem_append_left _ searched.mem_seen
  rows := searched.rows_erase blocker

end Searched

theorem searched_dropFrom {start queues : Table (List String)} {roots seen frontier : List String}
    {dropped : List Waiter} (reached : ∃ visited, Searched start roots visited queues seen dropped frontier) :
    ∃ all, Searched start roots all (dropFrom queues seen dropped frontier).1 all
      (dropFrom queues seen dropped frontier).2 [] := by
  fun_induction dropFrom queues seen dropped frontier with
  | case1 queues seen dropped =>
      obtain ⟨visited, searched⟩ := reached
      have all := searched.visits
      rw [List.append_nil] at all
      exact ⟨seen, all ▸ searched⟩
  | case2 queues seen dropped blocker frontier absent ih =>
      obtain ⟨visited, searched⟩ := reached
      exact ih ⟨_, searched.skip absent⟩
  | case3 queues seen dropped blocker frontier queue found fresh ih =>
      obtain ⟨visited, searched⟩ := reached
      exact ih ⟨_, searched.round found⟩

theorem searched_drop (tracker : Tracker) (roots : List String) :
    Searched tracker.queues roots (roots ++ (tracker.drop roots).2.map Waiter.library)
      (tracker.drop roots).1.queues (roots ++ (tracker.drop roots).2.map Waiter.library)
      (tracker.drop roots).2 [] := by
  obtain ⟨all, searched⟩ := searched_dropFrom ⟨_, .first tracker.queues roots⟩
  have visited : all = roots ++ (tracker.drop roots).2.map Waiter.library := searched.known
  exact visited ▸ searched

theorem breadthFirst_drop (tracker : Tracker) (roots : List String) :
    BreadthFirst tracker.queue roots (tracker.drop roots).2 :=
  ⟨(searched_drop tracker roots).order, (searched_drop tracker roots).earlier⟩

theorem entries_drop (tracker : Tracker) (roots : List String) : (tracker.drop roots).1.queues.entries =
    tracker.queues.entries.filter (·.1 ∉ roots ++ (tracker.drop roots).2.map Waiter.library) :=
  (searched_drop tracker roots).rows

theorem queued_of_drop {tracker : Tracker} {roots : List String} {waiter : Waiter}
    (member : waiter ∈ (tracker.drop roots).2) : waiter.library ∈ tracker.queue waiter.blocker := by
  rw [(breadthFirst_drop tracker roots).order] at member
  exact (Waiter.queued_of_served _ _ _ member).2

/-- What a drop returns, and what it leaves. -/
structure DropsBehind (before : Tracker) (roots : List String) (after : Tracker) (dropped : List Waiter) :
    Prop where
  mem_iff : ∀ name, name ∈ dropped.map Waiter.library ↔ Behind before.queue roots name ∧ name ∉ roots
  nodup : (dropped.map Waiter.library).Nodup
  order : ∀ other, BreadthFirst before.queue roots other ↔ other = dropped
  nearer : ∀ rounds, ∃ near, near <+: dropped ∧
    ∀ name, name ∈ near.map Waiter.library ↔ BehindWithin before.queue roots rounds name ∧ name ∉ roots
  paired : ∀ waiter ∈ dropped, waiter.library ∈ before.queue waiter.blocker ∧
    ∃ earlier later, roots ++ dropped.map Waiter.library = earlier ++ waiter.blocker :: later ∧
      ∀ blocker ∈ earlier, waiter.library ∉ before.queue blocker
  queues : after.queues.entries =
    before.queues.entries.filter fun row => row.1 ∉ roots ∧ row.1 ∉ dropped.map Waiter.library
  statuses : after.statuses = before.statuses
  failed : after.failed = before.failed
  loadOrder : after.loadOrder = before.loadOrder

/-- A drop removes the names that wait behind its roots, breadth first and each once, with the queues of the
roots and of these names, and nothing else. -/
theorem drop_dropsBehind (tracker : Tracker) (roots : List String) :
    tracker.DropsBehind roots (tracker.drop roots).1 (tracker.drop roots).2 where
  mem_iff := mem_drop tracker roots
  nodup := (breadthFirst_drop tracker roots).nodup
  order _ := by
    constructor
    · exact fun same => same.unique (breadthFirst_drop tracker roots)
    · rintro rfl
      exact breadthFirst_drop tracker roots
  nearer := (breadthFirst_drop tracker roots).nearer
  paired waiter member := by
    refine ⟨queued_of_drop member, ?_⟩
    rw [(breadthFirst_drop tracker roots).order] at member
    exact Waiter.first_of_served _ _ _ member
  queues := by
    rw [entries_drop]
    refine List.filter_congr ?_
    intro row _
    simp only [List.mem_append, not_or]
  statuses := statuses_drop tracker roots
  failed := failed_drop tracker roots
  loadOrder := loadOrder_drop tracker roots

end Tracker

end DemandLoad
