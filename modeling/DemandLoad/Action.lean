import DemandLoad.LoadError

namespace DemandLoad

inductive Subject where
  | registry
  | library (name : String)
  | config
  | tracker
  | loader
  deriving DecidableEq, Repr

/-- `writeGraph` writes into a buffer with `room` for so many bytes, or without a bound. -/
inductive Query where
  | status (name : String)
  | loaded
  | waiting
  | queued (name : String)
  | names
  | lookup (name : String)
  | graph
  | writeGraph (room : Option Nat)
  | inspect (subject : Subject)
  deriving DecidableEq, Repr

/-- `written` is the whole text, or the number of bytes that fitted. -/
inductive Reply where
  | status (status : Status) (failed : Bool)
  | list (names : List String)
  | count (amount : Nat)
  | names (names : List String)
  | record (found : Option (List String × Bool))
  | text (text : Option String)
  | written (outcome : Except Nat String)
  deriving Repr

inductive Outcome where
  | loaded
  | alreadyLoaded
  | deferred
  deriving DecidableEq, Repr

inductive Answer where
  | nothing
  | requested (result : Except LoadError Outcome) (errors : List LoadError)
  | swept (loaded : List String) (errors : List LoadError)
  | told (reply : Reply)
  deriving Repr

mutual

/-- A `noop` target does nothing; a program performs its actions until one makes it fail. -/
inductive Target where
  | noop
  | program (actions : List Action)
  deriving Repr

/-- `request` and `requestAll` may be strict: a program then fails with the error it gets. -/
inductive Action where
  | register (name : String) (dependencies : List String) (target : Target)
  | request (name : String) (strict : Bool)
  | requestAll (start : String) (strict : Bool)
  | fail (message : String)
  | query (query : Query)
  deriving Repr

end

/-- The failure that an answer means for the target that performed the action. -/
def Action.failure? : Action → Answer → Option String
  | .fail message, _ => some message
  | .request _ true, .requested (.error error) _ => some error.message
  | .requestAll _ true, .swept _ (error :: _) => some error.message
  | _, _ => none

mutual

/-- An upper bound on the steps of a target, including those of the targets it declares. -/
def Target.weight : Target → Nat
  | .noop => 0
  | .program actions => Target.weightOf actions

def Target.weightOf : List Action → Nat
  | [] => 0
  | action :: actions => Action.weight action + Target.weightOf actions

def Action.weight : Action → Nat
  | .register _ _ target => 3 + Target.weight target
  | _ => 1

end

theorem Action.weight_pos (action : Action) : 0 < action.weight := by
  cases action <;> simp only [Action.weight] <;> omega

end DemandLoad
