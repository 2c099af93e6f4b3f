import DemandLoad.Text.Quoted

namespace DemandLoad.Text

def joined (items : List String) : String := ", ".intercalate items

def field (name value : String) : String := name ++ ": " ++ value

def record (name : String) (fields : List String) : String :=
  name ++ " \x7b " ++ joined fields ++ " \x7d"

def wrapped (name value : String) : String := name ++ "(" ++ value ++ ")"

def optional : Option String → String
  | none => "None"
  | some value => wrapped "Some" value

def setOf (items : List String) : String := "\x7b" ++ joined items ++ "\x7d"

def mapOf (rows : List (String × String)) : String :=
  setOf (rows.map fun row => field (quoted row.1) row.2)

end DemandLoad.Text
