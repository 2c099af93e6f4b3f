import DemandLoad.Table

/-!
The loading state of the libraries: statuses, failures, queues of waiting requests, and the load order. `drop`
follows the waiting relation breadth first. Each round either removes a queue or shortens the frontier, which is
why it ends.
-/

namespace DemandLoad

inductive Status where
  | unloaded
  | loading
  | loaded
  deriving DecidableEq, Repr

def Status.text : Status → String
  | .unloaded => "unloaded"
  | .loading => "loading"
  | .loaded => "loaded"

structure Refusal where
  library : String
  current : Status
  wanted : Status
  deriving DecidableEq, Repr

def Refusal.message (refusal : Refusal) : String :=
  s!"Invalid transition for '{refusal.library}': {refusal.current.text} -> {refusal.wanted.text}"

/-- A request for `library`, taken out of the queue of `blocker`. -/
structure Waiter where
  library : String
  blocker : String
  deriving DecidableEq, Repr

/-- A library whose target failed keeps the status `loading` and is listed in `failed`. -/
structure Tracker where
  statuses : Table Status
  queues : Table (List String)
  failed : List String
  loadOrder : List String
  deriving DecidableEq, Repr

namespace Tracker

def empty : Tracker := ⟨.empty, .empty, [], []⟩

def status (tracker : Tracker) (name : String) : Status :=
  (tracker.statuses.get? name).getD .unloaded

def isFailed (tracker : Tracker) (name : String) : Bool := tracker.failed.contains name

def queue (tracker : Tracker) (blocker : String) : List String :=
  (tracker.queues.get? blocker).getD []

def waitingCount (tracker : Tracker) : Nat := tracker.queues.values.flatten.length

def setStatus (tracker : Tracker) (name : String) (status : Status) : Tracker :=
  { tracker with statuses := tracker.statuses.insert name status }

def start (tracker : Tracker) (name : String) : Except Refusal Tracker :=
  if tracker.status name = .unloaded then .ok (tracker.setStatus name .loading)
  else .error ⟨name, tracker.status name, .loading⟩

def finish (tracker : Tracker) (name : String) : Except Refusal (Tracker × List String) :=
  if tracker.isFailed name then .error ⟨name, .loading, .loaded⟩
  else if tracker.status name = .loading then
    .ok ({ tracker.setStatus name .loaded with
        loadOrder := tracker.loadOrder ++ [name]
        queues := tracker.queues.erase name },
      tracker.queue name)
  else .error ⟨name, tracker.status name, .loaded⟩

def unseen (seen queue : List String) : List String :=
  (queue.filter (· ∉ seen)).eraseDups

def dropFrom (queues : Table (List String)) (seen : List String) (dropped : List Waiter) :
    List String → Table (List String) × List Waiter
  | [] => (queues, dropped)
  | blocker :: frontier =>
    match found : queues.get? blocker with
    | none => dropFrom queues seen dropped frontier
    | some queue =>
      let fresh := unseen seen queue
      dropFrom (queues.erase blocker) (seen ++ fresh) (dropped ++ fresh.map (⟨·, blocker⟩))
        (frontier ++ fresh)
termination_by frontier => (queues.size, frontier.length)
decreasing_by
  · exact .right _ (by simp)
  · exact .left _ _ (queues.size_erase_lt blocker queue found)

/-- Removes every request that waits on one of `roots`, directly or behind another removed one. -/
def drop (tracker : Tracker) (roots : List String) : Tracker × List Waiter :=
  let (queues, dropped) := dropFrom tracker.queues roots [] roots
  ({ tracker with queues }, dropped)

/-- The status stays `loading`, and the requests that wait behind the library are removed. -/
def fail (tracker : Tracker) (name : String) : Except Refusal (Tracker × List Waiter) :=
  if tracker.status name = .loading then
    .ok ({ tracker with
      failed := if tracker.isFailed name then tracker.failed else tracker.failed ++ [name] }.drop [name])
  else .error ⟨name, tracker.status name, .loading⟩

/-- Queues a request once per blocker; the answer tells whether it was new there. -/
def defer (tracker : Tracker) (name blocker : String) : Tracker × Bool :=
  if (tracker.queue blocker).contains name then (tracker, false)
  else ({ tracker with
      queues := tracker.queues.insert blocker (tracker.queue blocker ++ [name]) }, true)

@[simp] theorem status_empty (name : String) : empty.status name = .unloaded := rfl

theorem status_setStatus (tracker : Tracker) (name other : String) (status : Status) :
    (tracker.setStatus name status).status other =
      if other = name then status else tracker.status other := by
  simp only [Tracker.status, setStatus, Table.get?_insert]
  split <;> rfl

@[simp] theorem statuses_drop (tracker : Tracker) (roots : List String) :
    (tracker.drop roots).1.statuses = tracker.statuses := rfl

@[simp] theorem failed_drop (tracker : Tracker) (roots : List String) :
    (tracker.drop roots).1.failed = tracker.failed := rfl

@[simp] theorem loadOrder_drop (tracker : Tracker) (roots : List String) :
    (tracker.drop roots).1.loadOrder = tracker.loadOrder := rfl

@[simp] theorem statuses_defer (tracker : Tracker) (name blocker : String) :
    (tracker.defer name blocker).1.statuses = tracker.statuses := by
  unfold defer; split <;> rfl

@[simp] theorem failed_defer (tracker : Tracker) (name blocker : String) :
    (tracker.defer name blocker).1.failed = tracker.failed := by
  unfold defer; split <;> rfl

@[simp] theorem loadOrder_defer (tracker : Tracker) (name blocker : String) :
    (tracker.defer name blocker).1.loadOrder = tracker.loadOrder := by
  unfold defer; split <;> rfl

end Tracker

end DemandLoad
