namespace DemandLoad

inductive Transition where
  | requested (library : String)
  | deferred (library blocker : String)
  | loading (library : String)
  | loaded (library : String)
  | resumed (library : String)
  | failed (library : String)
  | abandoned (library blocker : String)
  deriving DecidableEq, Repr

namespace Transition

def library : Transition → String
  | requested library | loading library | loaded library | resumed library | failed library
  | deferred library _ | abandoned library _ => library

def text : Transition → String
  | requested library => s!"Request to load {library}"
  | deferred library blocker =>
    if library = blocker then s!"Deferring load of {library} until it finishes loading"
    else s!"Deferring load of {library} until {blocker} is loaded"
  | loading library => s!"Loading {library}"
  | loaded library => s!"Loaded {library}"
  | resumed library => s!"Resuming deferred load of {library}"
  | failed library => s!"Failed to load {library}"
  | abandoned library blocker => s!"Abandoning load of {library} waiting on {blocker}"

end Transition

end DemandLoad
