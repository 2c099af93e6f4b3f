import DemandLoad.Loader.Lemmas
import DemandLoad.Machine

/-!
Why the machine comes to rest. The first part of the measure is the work left in targets that have not started
and in programs that are part way through. Between two steps that lower it no status and no declaration changes,
and the second part bounds how often the machine can go down a dependency, come back with an answer, or resume a
request: a walk goes down along unloaded libraries that are not yet on it.
-/

namespace DemandLoad

def Library.weight (library : Library Target) : Nat := (library.target.map Target.weight).getD 0

namespace Registry

abbrev Rows := List (String × Library Target)

/-- The weights of the targets of all unloaded libraries. -/
def storeOf (status : String → Status) : Rows → Nat
  | [] => 0
  | (name, library) :: rows =>
    (if status name = .unloaded then 2 + library.weight else 0) + storeOf status rows

def dependencyCount : Rows → Nat
  | [] => 0
  | (_, library) :: rows => library.dependencies.length + dependencyCount rows

theorem storeOf_mono (before after : String → Status) (rows : Rows)
    (begun : ∀ name, after name = .unloaded → before name = .unloaded) :
    storeOf after rows ≤ storeOf before rows := by
  induction rows with
  | nil => exact Nat.le_refl _
  | cons row rows ih =>
      obtain ⟨name, library⟩ := row
      have head : (if after name = .unloaded then 2 + library.weight else 0) ≤
          if before name = .unloaded then 2 + library.weight else 0 := by
        by_cases idle : after name = .unloaded
        · simp [idle, begun name idle]
        · simp [idle]
      exact Nat.add_le_add head ih

theorem storeOf_put (status : String → Status) (name : String) (library : Library Target)
    (rows : Rows) :
    storeOf status (Table.put name library rows) ≤ storeOf status rows + 2 + library.weight := by
  induction rows with
  | nil => simp only [Table.put, storeOf]; split <;> omega
  | cons row rows ih =>
      obtain ⟨other, held⟩ := row
      by_cases same : other = name
      · simp only [Table.put, same, if_true, storeOf]
        split <;> omega
      · simp only [Table.put, same, if_false, storeOf]
        omega

theorem storeOf_start (before after : String → Status) (name : String) (library : Library Target)
    (rows : Rows) (found : rows.lookup name = some library) (idle : before name = .unloaded)
    (changed : ∀ other, after other = if other = name then .loading else before other) :
    storeOf after (Table.put name (clearTarget library) rows) + 2 + library.weight ≤
      storeOf before rows := by
  induction rows with
  | nil => cases found
  | cons row rows ih =>
      obtain ⟨other, held⟩ := row
      rw [Table.lookup_row] at found
      by_cases same : other = name
      · subst same
        simp only [if_true, Option.some.injEq] at found
        subst found
        have rest := storeOf_mono before after rows (by
          intro third
          rw [changed third]
          split <;> simp_all)
        simp only [Table.put, if_true, storeOf, changed other, idle]
        simp only [reduceCtorEq, if_false]
        omega
      · have apart : name ≠ other := fun equal => same equal.symm
        simp only [apart, if_false] at found
        have tail := ih found
        simp only [Table.put, same, if_false, storeOf, changed other]
        omega

theorem length_le_dependencyCount (name : String) (library : Library Target) (rows : Rows)
    (found : rows.lookup name = some library) :
    library.dependencies.length ≤ dependencyCount rows := by
  induction rows with
  | nil => cases found
  | cons row rows ih =>
      obtain ⟨other, held⟩ := row
      rw [Table.lookup_row] at found
      simp only [dependencyCount]
      by_cases same : name = other
      · simp only [same, if_true, Option.some.injEq] at found
        subst found
        omega
      · simp only [same, if_false] at found
        have tail := ih found
        omega

end Registry

namespace Loader

def stored (loader : Loader) : Nat :=
  Registry.storeOf loader.status loader.registry.libraries.entries

def span (loader : Loader) : Nat :=
  Registry.dependencyCount loader.registry.libraries.entries + 6

def idleNames (loader : Loader) (walk : List String) : List String :=
  loader.registry.names.filter fun name => loader.status name = .unloaded ∧ name ∉ walk

/-- The cost of a request made on the given walk. -/
def reach (loader : Loader) (walk : List String) : Nat :=
  4 + loader.span * (loader.idleNames walk).length

def dueBeyond (loader : Loader) (names : List String) : Nat :=
  (loader.due.filter (· ∉ names)).length

def series (loader : Loader) (names : List String) : Nat := names.length * (loader.reach [] + 3)

/-- The cost of settling a pass, with a round under way that has still to take up `names`. -/
def settling (loader : Loader) (names : List String) : Nat :=
  loader.series names + loader.dueBeyond names * (loader.reach [] + 4) + 2

end Loader

def Caller.promised : Caller → Nat
  | .outermost => 0
  | .program _ _ rest => 1 + Target.weightOf rest

def Caller.cost (loader : Loader) : Caller → Nat
  | .outermost => loader.settling [] + 1
  | .program .. => 3

def Frame.promised : Frame → Nat
  | .requesting caller _ | .sweeping caller .. => caller.promised
  | .walking .. | .resuming .. | .settling .. => 0

def Frame.cost (loader : Loader) : Frame → Nat
  | .walking _ dependency rest =>
    if loader.status dependency = .loaded then rest.length + 2 + loader.reach [] else 1
  | .requesting caller _ => caller.cost loader
  | .sweeping caller _ rest _ => loader.series rest + caller.cost loader
  | .resuming _ rest => loader.series rest + 2
  | .settling _ rest => loader.settling rest

def Control.promised : Control → Nat
  | .perform _ actions => 1 + Target.weightOf actions
  | .sweep caller .. => caller.promised
  | _ => 0

def Control.cost (loader : Loader) (frames : List Frame) : Control → Nat
  | .drive _ => loader.reach (walkOf frames)
  | .walk library dependencies => dependencies.length + 1 + loader.reach (library :: walkOf frames)
  | .perform .. => 1
  | .resume _ waiting => loader.series waiting + 2
  | .sweep caller _ names _ => loader.series names + caller.cost loader
  | .settle _ names => loader.settling names
  | .answered _ => 1
  | .done _ => 0

def promisedBy : List Frame → Nat
  | [] => 0
  | frame :: frames => frame.promised + promisedBy frames

def costOf (loader : Loader) : List Frame → Nat
  | [] => 0
  | frame :: frames => frame.cost loader + costOf loader frames

namespace Machine

def promised (machine : Machine) : Nat :=
  machine.loader.stored + promisedBy machine.frames + machine.control.promised

def cost (machine : Machine) : Nat :=
  costOf machine.loader machine.frames + machine.control.cost machine.loader machine.frames

end Machine

/-- A change that moves no status and no declaration, and makes no unresolved name due. -/
structure Loader.Quiet (before after : Loader) : Prop where
  registry : after.registry = before.registry
  statuses : after.tracker.statuses = before.tracker.statuses
  due : after.due.Sublist before.due

namespace Loader.Quiet

variable {before after : Loader}

theorem trans {last : Loader} (first : Quiet before after) (second : Quiet after last) :
    Quiet before last :=
  ⟨second.registry.trans first.registry, second.statuses.trans first.statuses,
    second.due.trans first.due⟩

theorem of_unresolved (registry : after.registry = before.registry)
    (statuses : after.tracker.statuses = before.tracker.statuses)
    (unresolved : after.unresolved.Sublist before.unresolved) : Quiet before after :=
  ⟨registry, statuses, by rw [Loader.due, Loader.due, registry]; exact unresolved.filter _⟩

theorem status (quiet : Quiet before after) : after.status = before.status := by
  funext name
  simp only [Loader.status, Tracker.status, quiet.statuses]

theorem stored (quiet : Quiet before after) : after.stored = before.stored := by
  rw [Loader.stored, Loader.stored, quiet.status, quiet.registry]

theorem reach (quiet : Quiet before after) (walk : List String) :
    after.reach walk = before.reach walk := by
  simp only [Loader.reach, Loader.span, Loader.idleNames, quiet.status, quiet.registry]

theorem series (quiet : Quiet before after) (names : List String) :
    after.series names = before.series names := by
  rw [Loader.series, Loader.series, quiet.reach]

theorem settling (quiet : Quiet before after) (names : List String) :
    after.settling names ≤ before.settling names := by
  have fewer : after.dueBeyond names ≤ before.dueBeyond names := (quiet.due.filter _).length_le
  have scaled := Nat.mul_le_mul_right (before.reach [] + 4) fewer
  simp only [Loader.settling, quiet.series, quiet.reach]
  omega

theorem callerCost (quiet : Quiet before after) (caller : Caller) :
    caller.cost after ≤ caller.cost before := by
  cases caller with
  | outermost => exact Nat.succ_le_succ (quiet.settling [])
  | program => exact Nat.le_refl _

theorem frameCost (quiet : Quiet before after) (frame : Frame) :
    frame.cost after ≤ frame.cost before := by
  cases frame with
  | walking library dependency rest =>
      simp only [Frame.cost, quiet.status, quiet.reach]; exact Nat.le_refl _
  | requesting caller name => exact quiet.callerCost caller
  | sweeping caller before rest errors =>
      simp only [Frame.cost, quiet.series]
      exact Nat.add_le_add_left (quiet.callerCost caller) _
  | resuming library rest => simp only [Frame.cost, quiet.series]; exact Nat.le_refl _
  | settling verdict rest => exact quiet.settling rest

theorem costOf (quiet : Quiet before after) (frames : List Frame) :
    DemandLoad.costOf after frames ≤ DemandLoad.costOf before frames := by
  induction frames with
  | nil => exact Nat.le_refl _
  | cons frame frames ih =>
      simp only [DemandLoad.costOf]
      exact Nat.add_le_add (quiet.frameCost frame) ih

end Loader.Quiet

namespace Loader

variable (loader : Loader)

theorem quiet_note (event : Event) : Quiet loader (loader.note event) := .of_unresolved rfl rfl (.refl _)

theorem quiet_announce (transition : Transition) : Quiet loader (loader.announce transition) :=
  .of_unresolved rfl rfl (.refl _)

theorem quiet_defer (name blocker : String) : Quiet loader (loader.defer name blocker) :=
  .of_unresolved (by simp) (by simp) (by simp)

theorem quiet_dropBehind (name : String) : Quiet loader (loader.dropBehind name) :=
  .of_unresolved rfl rfl (.refl _)

theorem quiet_forget (name : String) : Quiet loader (loader.forget name) :=
  .of_unresolved rfl rfl List.filter_sublist

theorem quiet_orphan (result : Except LoadError Outcome) : Quiet loader (loader.orphan result) :=
  .of_unresolved (by simp) (by simp) (by simp)

theorem quiet_remember (name : String) (unknown : loader.registry.contains name = false) :
    Quiet loader (loader.remember name) := by
  refine ⟨by simp, by simp, ?_⟩
  simp only [due, registry_remember]
  unfold remember
  split
  · exact .refl _
  · simp [List.filter_append, unknown]

theorem quiet_conclude :
    Quiet loader loader.takeErrors.1.giveUpUnresolved.1 := by
  refine .of_unresolved ?_ ?_ ?_
  · exact registry_giveUpUnresolved _
  · exact statuses_giveUpUnresolved _
  · rw [unresolved_giveUpUnresolved]
    exact List.nil_sublist _

theorem idleNames_sublist (walk : List String) :
    (loader.idleNames walk).Sublist (loader.idleNames []) := by
  have narrowed : loader.idleNames walk = (loader.idleNames []).filter (· ∉ walk) := by
    simp only [idleNames, List.filter_filter]
    congr 1
    funext name
    simp [Bool.and_comm]
  rw [narrowed]
  exact List.filter_sublist

theorem reach_le (walk : List String) : loader.reach walk ≤ loader.reach [] := by
  have fewer := Nat.mul_le_mul_left loader.span (loader.idleNames_sublist walk).length_le
  simp only [reach]
  omega

theorem reach_cons (walk : List String) (name : String) (known : name ∈ loader.registry.names)
    (idle : loader.status name = .unloaded) (fresh : name ∉ walk) :
    loader.span + loader.reach (name :: walk) ≤ loader.reach walk := by
  have narrowed : loader.idleNames (name :: walk) = (loader.idleNames walk).filter (· ≠ name) := by
    simp only [idleNames, List.filter_filter]
    congr 1
    funext other
    by_cases same : other = name <;> simp [same, fresh]
  have present : name ∈ loader.idleNames walk := by simp [idleNames, known, idle, fresh]
  have fewer : (loader.idleNames (name :: walk)).length < (loader.idleNames walk).length := by
    rw [narrowed]
    exact List.length_filter_lt_length_iff_exists.mpr ⟨name, present, by simp⟩
  have scaled := Nat.mul_le_mul_left loader.span fewer
  rw [Nat.mul_succ] at scaled
  simp only [reach]
  omega

theorem stored_declare (name : String) (dependencies : List String) (target : Target) :
    (loader.declare name dependencies target).stored ≤ loader.stored + 2 + target.weight := by
  have grown := Registry.storeOf_put loader.status name (.declare name target dependencies)
    loader.registry.libraries.entries
  have same : ∀ loader : Loader, loader.status = loader.tracker.status := fun _ => rfl
  simp only [stored, same, tracker_declare, registry_declare] at grown ⊢
  exact grown

theorem dependencies_length (name : String) : (loader.dependencies name).length + 6 ≤ loader.span := by
  unfold dependencies Registry.dependencies? span
  cases found : loader.registry.lookup? name with
  | none => simp
  | some library =>
      have bound := Registry.length_le_dependencyCount name library _ found
      simpa using bound

end Loader

end DemandLoad
