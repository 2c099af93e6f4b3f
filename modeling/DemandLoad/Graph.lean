import DemandLoad.Registry
import DemandLoad.Tracker

/-!
The dependency graph as a drawing, and the drawing as text in the language of graph layout tools. Names are
quoted, with quotes and backslashes escaped.
-/

namespace DemandLoad

inductive NodeState where
  | failed
  | loaded
  | loading
  | unloaded
  deriving DecidableEq, Repr

/-- `missing` are the dependencies that nobody declared, each once, in order of first mention. An
edge goes from a library to one of its dependencies. -/
structure Drawing where
  nodes : List (String × NodeState)
  missing : List String
  edges : List (String × String)
  deriving DecidableEq, Repr

def Tracker.nodeState (tracker : Tracker) (name : String) : NodeState :=
  if tracker.isFailed name then .failed
  else match tracker.status name with
    | .loaded => .loaded
    | .loading => .loading
    | .unloaded => .unloaded

def NodeState.style : NodeState → String
  | .failed => "color=red"
  | .loaded => "style=filled"
  | .loading => "style=bold"
  | .unloaded => "style=solid"

namespace Drawing

variable {τ : Type}

def ofLibraries (registry : Registry τ) (tracker : Tracker) : Drawing where
  nodes := registry.names.map fun name => (name, tracker.nodeState name)
  missing := ((registry.records.flatMap Library.dependencies).filter
    fun name => !registry.contains name).eraseDups
  edges := registry.libraries.entries.flatMap fun row => row.2.dependencies.map (row.1, ·)

def escapeChar (character : Char) : List Char :=
  if character = '\\' ∨ character = '"' then ['\\', character] else [character]

def quotedName (name : String) : List Char :=
  '"' :: name.toList.flatMap escapeChar ++ ['"']

def nodeLine (name style : String) : List Char :=
  '\t' :: quotedName name ++ [' ', '['] ++ style.toList ++ [']', ';', '\n']

def edgeLine (library dependency : String) : List Char :=
  '\t' :: quotedName library ++ " -> ".toList ++ quotedName dependency ++ [';', '\n']

def opening : String := "digraph Libraries \x7b\n\tnode [shape=box];\n"

def closing : String := "\x7d\n"

def characters (drawing : Drawing) : List Char :=
  opening.toList ++ drawing.nodes.flatMap (fun node => nodeLine node.1 node.2.style) ++
    drawing.missing.flatMap (nodeLine · "style=dashed") ++
    drawing.edges.flatMap (fun edge => edgeLine edge.1 edge.2) ++ closing.toList

def render (drawing : Drawing) : String := String.ofList drawing.characters

end Drawing

end DemandLoad
