import DemandLoad.Inspect

namespace DemandLoad

namespace Tracker

inductive Op where
  | start (name : String)
  | finish (name : String)
  | fail (name : String)
  | defer (name blocker : String)
  | drop (roots : List String)
  | queued (name : String)
  | inspect
  deriving DecidableEq, Repr

inductive Result where
  | done
  | refused (refusal : Refusal)
  | names (names : List String)
  | waiters (waiters : List Waiter)
  | isNew (new : Bool)
  | text (text : String)
  deriving DecidableEq, Repr

/-- A refused operation leaves the tracker as it was. -/
def apply (tracker : Tracker) : Op → Tracker × Result
  | .start name =>
    match tracker.start name with
    | .error refusal => (tracker, .refused refusal)
    | .ok next => (next, .done)
  | .finish name =>
    match tracker.finish name with
    | .error refusal => (tracker, .refused refusal)
    | .ok (next, resumed) => (next, .names resumed)
  | .fail name =>
    match tracker.fail name with
    | .error refusal => (tracker, .refused refusal)
    | .ok (next, dropped) => (next, .waiters dropped)
  | .defer name blocker =>
    let (next, new) := tracker.defer name blocker
    (next, .isNew new)
  | .drop roots =>
    let (next, dropped) := tracker.drop roots
    (next, .waiters dropped)
  | .queued name => (tracker, .names (tracker.queue name))
  | .inspect => (tracker, .text tracker.inspect)

def applyAll (tracker : Tracker) (ops : List Op) : Tracker :=
  ops.foldl (fun tracker op => (tracker.apply op).1) tracker

end Tracker

end DemandLoad
